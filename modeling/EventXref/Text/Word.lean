import EventXref.Text.Blank
import EventXref.Text.Trait

namespace EventXref.Text

def digitChars : CharSet := Category.members .decimalNumber

def blankChars : CharSet := ⟨blankRanges⟩

def joiners : CharSet := ⟨[(0x200C, 0x200D)]⟩

def wordChars : CharSet :=
  CharSet.unions [Trait.alphabetic, Category.union Category.marks, digitChars,
    Category.members .connectorPunctuation, joiners]

def asciiDigitChars : CharSet := CharSet.range '0' '9'

def asciiBlankChars : CharSet := CharSet.ofTable "9-D 20"

def asciiWordChars : CharSet := CharSet.ofTable "30-39 41-5A 5F 61-7A"

end EventXref.Text
