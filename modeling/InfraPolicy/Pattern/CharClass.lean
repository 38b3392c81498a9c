import InfraPolicy.Unicode.Age
import InfraPolicy.Unicode.Break
import InfraPolicy.Unicode.PropertyNames
import InfraPolicy.Unicode.ScriptExtension

/-!
# Named classes of characters

The classes that a pattern may name: the letters after a backslash, the bracketed names that stand
for ASCII characters, and the properties of Unicode by name or by name and value. Names of
properties are compared without regard to case, blanks, hyphens and low lines.
-/

namespace InfraPolicy.CharClass

/-- A range of characters. -/
def range (lo hi : Char) : Nat × Nat := (lo.toNat, hi.toNat)

/-- The digits of ASCII. -/
def asciiDigit : CodeSet := .ofRanges [range '0' '9']

/-- The white space of ASCII. -/
def asciiSpace : CodeSet := .ofRanges [(9, 13), (32, 32)]

/-- The characters of words in ASCII. -/
def asciiWord : CodeSet := .ofRanges [range '0' '9', range 'A' 'Z', range 'a' 'z', range '_' '_']

/-- The class that a letter after a backslash stands for, in lower case. -/
def letterClass? (unicode : Bool) (letter : Char) : Option CodeSet :=
  match letter with
  | 'd' => some (if unicode then Unicode.decimalDigits else asciiDigit)
  | 's' => some (if unicode then Unicode.whiteSpace else asciiSpace)
  | 'w' => some (if unicode then Unicode.wordCharacters else asciiWord)
  | _ => none

/-- A class of ASCII characters by its bracketed name. -/
def asciiClass? (name : String) : Option CodeSet :=
  (match name with
    | "alnum" => some [range '0' '9', range 'A' 'Z', range 'a' 'z']
    | "alpha" => some [range 'A' 'Z', range 'a' 'z']
    | "ascii" => some [(0, 127)]
    | "blank" => some [(9, 9), (32, 32)]
    | "cntrl" => some [(0, 31), (127, 127)]
    | "digit" => some [range '0' '9']
    | "graph" => some [(33, 126)]
    | "lower" => some [range 'a' 'z']
    | "print" => some [(32, 126)]
    | "punct" => some [(33, 47), (58, 64), (91, 96), (123, 126)]
    | "space" => some [(9, 13), (32, 32)]
    | "upper" => some [range 'A' 'Z']
    | "word" => some [range '0' '9', range 'A' 'Z', range 'a' 'z', range '_' '_']
    | "xdigit" => some [range '0' '9', range 'A' 'F', range 'a' 'f']
    | _ => none).map .ofRanges

/-- The form in which names are compared: ASCII in lower case without separators, and without a
leading `is`, unless all that is left is the letter that would name a category. -/
def normalName (name : String) : String :=
  let cs := name.toList
  let hasIs := (cs.take 2).map Number.lowerAscii == ['i', 's']
  let kept := (if hasIs then cs.drop 2 else cs).filter fun c =>
    c.toNat < 128 && c != ' ' && c != '_' && c != '-'
  let lower := kept.map Number.lowerAscii
  String.ofList (if hasIs && lower == ['c'] then ['i', 's', 'c'] else lower)

/-- Find the entry that has the name among its names. -/
def findNamed? {α : Type} (name : String) (entries : List α) (names : α → List String) : Option α :=
  entries.find? fun entry => (names entry).any fun n => normalName n == name

/-- A general category, or one of the three classes that are treated like one. -/
def category? (name : String) : Option CodeSet :=
  match name with
  | "any" => some .all
  | "assigned" => some (Unicode.categories ["Cn"]).complement
  | "ascii" => some (.ofRanges [(0, 127)])
  | _ =>
    (findNamed? name Unicode.categoryNames id).bind fun names =>
      names.head?.map fun short => Unicode.categories (Unicode.categoryMembers short)

/-- The four-letter name of a script. -/
def scriptName? (name : String) : Option String :=
  (findNamed? name Unicode.scriptNames id).bind List.head?

/-- The characters that a version of Unicode knows. -/
def age? (name : String) : Option CodeSet :=
  (findNamed? name Unicode.versions Unicode.versionNames).map Unicode.knownBy

/-- A class among named ones. -/
def named? (name : String) (classes : List (List String × CodeSet)) : Option CodeSet :=
  (findNamed? name classes Prod.fst).map Prod.snd

/-- A class by one name: a property, a category or a script, in this order. Three names that
abbreviate other properties stand for categories. -/
def property? (name : String) : Option CodeSet :=
  let name := normalName name
  let property :=
    if name == "cf" || name == "sc" || name == "lc" then none
    else named? name Unicode.properties
  (property.orElse fun _ => category? name).orElse fun _ => (scriptName? name).map Unicode.script

/-- A class by the name of a property and its value. -/
def propertyValue? (name value : String) : Option CodeSet :=
  let value := normalName value
  match normalName name with
  | "gc" | "generalcategory" => category? value
  | "sc" | "script" => (scriptName? value).map Unicode.script
  | "scx" | "scriptextensions" => (scriptName? value).map Unicode.scriptExtension
  | "age" => age? value
  | "gcb" | "graphemeclusterbreak" => named? value Unicode.graphemeBreaks
  | "wb" | "wordbreak" => named? value Unicode.wordBreaks
  | "sb" | "sentencebreak" => named? value Unicode.sentenceBreaks
  | _ => none

end InfraPolicy.CharClass
