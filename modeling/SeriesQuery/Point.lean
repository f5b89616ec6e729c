import SeriesQuery.Double.Text

/-! # Points and their values

A point of a series carries a time in milliseconds and one 64-bit word. The word is an integer or,
when the point is floating, the bit pattern of a double; reading a value off a point and writing it
back never changes a bit.
-/

namespace SeriesQuery

/-- A number as clients see it. -/
inductive Value where
  | int (n : Int64)
  | float (d : Double)
deriving DecidableEq, Repr, Inhabited

namespace Value

/-- The value as a double; large integers are rounded. -/
def toDouble : Value → Double
  | int n => .ofInt n.toInt
  | float d => d

/-- The plain text: an integer in digits, a double without an exponent. -/
def text : Value → String
  | int n => toString n.toInt
  | float d => d.text

def jsonText : Value → String
  | int n => toString n.toInt
  | float d => d.jsonText

end Value

/-- One measured value of a series. -/
structure Point where
  /-- Unix time in milliseconds. -/
  time : Int64
  /-- Whether `raw` holds the bits of a double. -/
  floating : Bool
  /-- The integer value, or the bits of a double. -/
  raw : Int64
deriving DecidableEq, Repr, Inhabited

namespace Point

def ofInt (time : Int64) (n : Int64) : Point := ⟨time, false, n⟩

def ofDouble (time : Int64) (d : Double) : Point := ⟨time, true, d.bits.toInt64⟩

def ofValue (time : Int64) : Value → Point
  | .int n => ofInt time n
  | .float d => ofDouble time d

/-- The word read as the bits of a double. -/
def rawDouble (p : Point) : Double := ⟨p.raw.toUInt64⟩

def value (p : Point) : Value := if p.floating then .float p.rawDouble else .int p.raw

def toDouble (p : Point) : Double := p.value.toDouble

def withInt (p : Point) (n : Int64) : Point := ofInt p.time n

def withDouble (p : Point) (d : Double) : Point := ofDouble p.time d

@[simp] theorem time_ofValue (t : Int64) (v : Value) : (ofValue t v).time = t := by
  cases v <;> rfl

@[simp] theorem value_ofValue (t : Int64) (v : Value) : (ofValue t v).value = v := by
  cases v <;> simp [ofValue, ofInt, ofDouble, value, rawDouble]

@[simp] theorem ofValue_value (p : Point) : ofValue p.time p.value = p := by
  obtain ⟨t, floating, raw⟩ := p
  cases floating <;> simp [ofValue, ofInt, ofDouble, value, rawDouble]

end Point
end SeriesQuery
