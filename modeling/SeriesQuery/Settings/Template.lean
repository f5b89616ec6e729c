/-! # A settings file to start from -/

namespace SeriesQuery.Settings

def template : String := "# Chronicle Query Configuration
#
# Environment variables override these settings:
# - CHRONICLE_QUERY_DB
# - CHRONICLE_QUERY_FORCE_MATERIALIZED
# - CHRONICLE_ARCHIVE_DIR
# - CHRONICLE_LOG_LEVEL
# - CHRONICLE_LOG_FORMAT

[query]
# Database queried when none is given on the command line
default_db = \"default\"

# Run all stage chains through the materialized pipeline
force_materialized = false

[archive]
# Directory holding archived buckets
dir = \"./chronicle_archive\"

# Archive file name inside the directory
file_name = \"buckets.archive\"

[logging]
# Log level: trace, debug, info, warn, error
level = \"info\"

# Log format: pretty (for development) or json (for production)
format = \"pretty\"

# Optional log file path
# file = \"/var/log/chronicle/query.log\"
"

end SeriesQuery.Settings
