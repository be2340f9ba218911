import TerrainTiles.Text.Quoted

/-!
# What can be wrong with a template

One constructor for each cause, with the text of its message. The causes differ
in kind: a missing field, a position or character that does not exist, an
attribute, an index that is no number, and everything that is malformed.
-/

namespace TerrainTiles.Text

inductive NumericOption where
  | space
  | sign
  | negativeZero
  | alternate
  | signAlignment
  deriving DecidableEq, Repr

namespace NumericOption

def message : NumericOption → String
  | space => "Space not allowed in string format specifier"
  | sign => "Sign not allowed in string format specifier"
  | negativeZero => "Negative zero coercion (z) not allowed in string format specifier"
  | alternate => "Alternate form (#) not allowed in string format specifier"
  | signAlignment => "'=' alignment not allowed in string format specifier"

end NumericOption

inductive TemplateError where
  | loneOpening
  | loneClosing
  | unclosedField
  | openingInName
  | missingConversion
  | junkAfterConversion
  | unclosedFormat
  | nestedTooDeep
  | tooManyDigits
  | unclosedIndex
  | junkAfterIndex
  | emptyAccess
  | unknownConversion (c : Char)
  | unknownFormat (c : Char)
  | malformedFormat (spec : String)
  | bothSeparators
  | separator (mark type : Char)
  | missingPrecision
  | numericOption (option : NumericOption)
  | unknownField (name : String)
  | positionalField (index : Nat)
  | noAttribute (name : String)
  | indexNotNumeric
  | indexOutOfRange
  deriving DecidableEq, Repr

/-- The families that callers tell apart. -/
inductive TemplateError.Family where
  | value
  | key
  | index
  | attribute
  | type
  deriving DecidableEq, Repr

namespace TemplateError

def family : TemplateError → Family
  | unknownField _ => .key
  | positionalField _ | indexOutOfRange => .index
  | noAttribute _ => .attribute
  | indexNotNumeric => .type
  | _ => .value

/-- A character as it stands, or by its code point where it is not visible ASCII. -/
private def named (last : Nat) (c : Char) : String :=
  if 32 < c.toNat ∧ c.toNat < last then c.toString
  else "\\x" ++ String.ofList (Nat.toDigits 16 c.toNat)

def message : TemplateError → String
  | loneOpening => "Single '\x7b' encountered in format string"
  | loneClosing => "Single '\x7d' encountered in format string"
  | unclosedField => "expected '\x7d' before end of string"
  | openingInName => "unexpected '\x7b' in field name"
  | missingConversion => "end of string while looking for conversion specifier"
  | junkAfterConversion => "expected ':' after conversion specifier"
  | unclosedFormat => "unmatched '\x7b' in format spec"
  | nestedTooDeep => "Max string recursion exceeded"
  | tooManyDigits => "Too many decimal digits in format string"
  | unclosedIndex => "Missing ']' in format string"
  | junkAfterIndex => "Only '.' or '[' may follow ']' in format field specifier"
  | emptyAccess => "Empty attribute in format string"
  | unknownConversion c => "Unknown conversion specifier " ++ named 127 c
  | unknownFormat c => s!"Unknown format code '{named 128 c}' for object of type 'str'"
  | malformedFormat spec => s!"Invalid format specifier '{spec}' for object of type 'str'"
  | bothSeparators => "Cannot specify both ',' and '_'."
  | separator mark type => s!"Cannot specify '{mark}' with '{named 128 type}'."
  | missingPrecision => "Format specifier missing precision"
  | numericOption option => option.message
  | unknownField name => quoted name
  | positionalField index =>
    s!"Replacement index {index} out of range for positional args tuple"
  | noAttribute name => s!"'str' object has no attribute '{name}'"
  | indexNotNumeric => "string indices must be integers, not 'str'"
  | indexOutOfRange => "string index out of range"

end TemplateError

end TerrainTiles.Text
