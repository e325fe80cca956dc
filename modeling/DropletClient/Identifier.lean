import DropletClient.Text.Blank
import DropletClient.Text.Decimal

namespace DropletClient.Identifier

/-!
# Portable identifiers

Callers name droplets and images by texts. A text is recognised if it is the
decimal numeral of an integer with 32 bits, with an optional sign, and with
white space around it.
-/

/-- The integer that an optional sign and a numeral denote. -/
def integer? : List Char → Option Int
  | '+' :: digits => (Text.Decimal.value? digits).map fun value => (value : Int)
  | '-' :: digits =>
      (Text.Decimal.value? digits).map fun value => -(value : Int)
  | digits => (Text.Decimal.value? digits).map fun value => (value : Int)

/-- An integer has 32 bits. -/
def inRange (value : Int) : Bool :=
  -2147483648 ≤ value && value ≤ 2147483647

/-- The identifier that a text stands for. -/
def read? (text : String) : Option Int32 :=
  ((integer? (Text.trim text.toList)).filter inRange).map Int32.ofInt

/-- The text of an identifier. -/
def text (id : Int32) : String :=
  Text.Decimal.ofInt id.toInt

end DropletClient.Identifier
