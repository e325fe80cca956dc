namespace DropletClient.Toml

/-!
# Values of documents

What a document gives to its names. Of a fraction, a moment, an array or an
inline table nothing is kept but that it is there.
-/

/-- A value. -/
inductive Value where
  | text (value : String)
  | integer (value : Int)
  | boolean (value : Bool)
  | fraction
  | moment
  | array
  | table
  deriving Repr, DecidableEq

end DropletClient.Toml
