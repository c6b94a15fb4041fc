/-
Why a document is not a snapshot.
-/
import ProxyMaps.Decimal.Integer
import ProxyMaps.Yaml.Fault

namespace ProxyMaps.Snapshot

/-- A place of a snapshot where a mapping belongs. -/
inductive Place where
  | whole
  | routes
  | units
  | route (key : String)
  | certificates (key : String)
  | annotations (key : String)
  | weights (key : String)
  | certificate (key : String)
  | unit (name : String)
  | endpoint (name : String) (index : Nat)
  deriving DecidableEq, Repr

/-- The words for a place. -/
def Place.describe : Place → String
  | whole => "snapshot"
  | routes => "routes"
  | units => "serviceUnits"
  | route key => s!"route {key}"
  | certificates key => s!"route {key} certificates"
  | annotations key => s!"route {key} annotations"
  | weights key => s!"route {key} serviceUnits"
  | certificate key => s!"certificate {key}"
  | unit name => s!"service unit {name}"
  | endpoint name index => s!"service unit {name} endpoint {index}"

/-- Why the weight of a service is no integer. -/
inductive WeightFault where
  /-- The weight is a text that is no numeral; `shown` is the text in quotes. -/
  | notNumeral (shown : String)
  | tooManyDigits (digits : Nat)
  | notANumber
  /-- The weight is of a type that numbers are never read from. -/
  | wrongType (typeName : String)
  /-- The key of the weight is an integer with too many digits to be written. -/
  | endlessKey
  deriving DecidableEq, Repr

/-- The wording for an integer that has too many digits to be written. -/
def endlessInteger : String :=
  s!"Exceeds the limit ({Decimal.maxDigits} digits) for integer string conversion; " ++
    "use sys.set_int_max_str_digits() to increase the limit"

/-- The wording of a fault of a weight. -/
def WeightFault.message : WeightFault → String
  | notNumeral shown => s!"invalid literal for int() with base 10: {shown}"
  | tooManyDigits digits => Decimal.tooManyDigits digits
  | notANumber => "cannot convert float NaN to integer"
  | wrongType typeName =>
    "int() argument must be a string, a bytes-like object or a real number, " ++
      s!"not '{typeName}'"
  | endlessKey => endlessInteger

/-- Why a text or a document gives no snapshot. -/
inductive Fault where
  /-- The text is no document. -/
  | unparsable (f : Yaml.Fault)
  /-- The text has no document or several. -/
  | documentCount (n : Nat)
  | notMapping (place : Place) (typeName : String)
  | unknownTermination (key shown : String)
  | unknownPolicy (key shown : String)
  | weight (key : String) (f : WeightFault)
  | infiniteWeight
  | noIp (name : String) (index : Nat)
  /-- A value that is neither a truth value nor a text stands where a truth value belongs. -/
  | notFlag (typeName : String)
  /-- A value without parts stands where endpoints belong. -/
  | notIterable (typeName : String)
  /-- A text is wanted of an integer that has too many digits to be written. -/
  | endless
  deriving DecidableEq, Repr

/-- The wording of a fault. -/
def Fault.message : Fault → String
  | unparsable .malformed => "could not parse snapshot"
  | unparsable f => f.message
  | documentCount n => s!"snapshot must be exactly one YAML document, not {n}"
  | notMapping place typeName => s!"{place.describe} must be a mapping, not {typeName}"
  | unknownTermination key shown => s!"route {key}: unknown termination {shown}"
  | unknownPolicy key shown => s!"route {key}: unknown insecureEdgeTerminationPolicy {shown}"
  | weight key f => s!"route {key}: service unit weights must be integers: {f.message}"
  | infiniteWeight => "cannot convert float infinity to integer"
  | noIp name index => s!"{(Place.endpoint name index).describe} has no ip"
  | notFlag typeName => s!"'{typeName}' object has no attribute 'strip'"
  | notIterable typeName => s!"'{typeName}' object is not iterable"
  | endless => endlessInteger

end ProxyMaps.Snapshot
