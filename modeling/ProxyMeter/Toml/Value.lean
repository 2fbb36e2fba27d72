/-!
# TOML values

What a document says: a table of keys and values. Floats and date-times keep their literals, as
nothing here computes with them.
-/

namespace ProxyMeter.Toml

/-- A TOML value. A table keeps its keys in the order of the document, each of them once. -/
inductive Value where
  | string (text : String)
  | integer (value : Int)
  | float (literal : String)
  | boolean (value : Bool)
  | dateTime (literal : String)
  | array (items : List Value)
  | table (entries : List (String × Value))
  deriving Repr

end ProxyMeter.Toml
