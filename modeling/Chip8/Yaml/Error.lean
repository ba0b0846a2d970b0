import Chip8.Text.Fraction

/-!
# Malformed documents

Why a text is no YAML document, or a document that has no value.
-/

namespace Chip8.Yaml

/-- The cause for which a document is refused. -/
inductive Error where
  /-- A character that no document may hold. -/
  | forbiddenCharacter (c : Char)
  /-- A character with which no token starts. -/
  | strayCharacter (c : Char)
  /-- A key without a colon. -/
  | keyWithoutValue
  /-- An entry of a sequence where none may start. -/
  | misplacedEntry
  /-- A key where none may start. -/
  | misplacedKey
  /-- A colon where no key may end. -/
  | misplacedColon
  /-- A tab where only blanks may stand. -/
  | misplacedTab
  /-- A quoted scalar without an end. -/
  | unclosedQuote
  /-- A document marker in a quoted scalar. -/
  | markerInQuote
  /-- An escape that does not exist. -/
  | badEscape
  /-- A wrong line at the head of a block scalar. -/
  | badBlockHead
  /-- A directive that does not exist, or is not well formed. -/
  | badDirective
  /-- A tag that is not well formed. -/
  | badTag
  /-- A name of a node that is not well formed. -/
  | badAnchor
  /-- A name that two nodes have. -/
  | duplicateAnchor (name : String)
  /-- A name that no node has. -/
  | unknownAnchor (name : String)
  /-- A token where something else must stand. -/
  | unexpectedToken
  /-- Something after the end of the document. -/
  | secondDocument
  /-- A key that a mapping has twice. -/
  | duplicateKey (key : String)
  /-- A sequence or a mapping as a key. -/
  | compositeKey
  /-- Something other than mappings whose entries are to be merged into a mapping. -/
  | badMerge
  /-- A name that stands for too much of the document again. -/
  | tooManyAliases
  /-- A tag that does not fit its node, or for which there are no values. -/
  | valuelessTag
  /-- A number without characters. -/
  | emptyNumber
  /-- An integer in a base that cannot be read. -/
  | badInteger (base : Nat) (text : List Char)
  /-- A decimal integer with too many digits. -/
  | longInteger (digits : Nat)
  /-- A fraction that cannot be read. -/
  | badFraction (text : List Char)
  /-- A fraction in base 60 with a place beyond the largest number. -/
  | tooLarge
  /-- A word that names no truth value. -/
  | badTruth
  /-- A text that is no date. -/
  | noMoment
  /-- A date that does not exist. -/
  | badMoment (report : String)
deriving DecidableEq, Repr

/-- The report of a number or a date that does not exist; the other causes have none. -/
def Error.message? : Error → Option String
  | badInteger base text => some (Text.notIntegerReport base text)
  | longInteger digits => some (Text.tooManyDigitsReport digits)
  | badFraction text => some (Text.notFractionReport text)
  | badMoment report => some report
  | _ => none

end Chip8.Yaml
