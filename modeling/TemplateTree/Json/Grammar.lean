import TemplateTree.Json.Tree

/-!
# The grammar of JSON text

`IsText` relates trees to the texts that may be written for them, and these are all texts
that are JSON, whatever a reader makes of them: blanks stand in any number around every
value, comma and colon, the characters of a string stand for themselves or are escaped by a
letter, by a code or by a pair of codes, and a number has digits without a leading zero, a
fraction if any and a power of ten if any.

A number may have any magnitude, and the code of half a pair may stand where the other half
does not follow. Such texts are JSON as well, though they cannot be read.
-/

namespace TemplateTree.Json

/-- Blanks and nothing else. -/
def Blank (cs : List Char) : Prop :=
  ∀ c ∈ cs, c = ' ' ∨ c = '\n' ∨ c = '\t' ∨ c = '\r'

/-! ## Numbers -/

/-- Digits, first digit first, of which there is at least one. -/
structure IsDigits (digits : List Nat) : Prop where
  ne_nil : digits ≠ []
  lt_ten : ∀ d ∈ digits, d < 10

def digitChars (digits : List Nat) : List Char :=
  digits.map Text.hexDigit

/-- A fraction behind its point, or none. -/
inductive FractionText : List Nat → List Char → Prop where
  | none : FractionText [] []
  | some {digits : List Nat} (hdigits : IsDigits digits) :
      FractionText digits ('.' :: digitChars digits)

/-- A power of ten behind its mark, negative or not, or none. -/
inductive PowerText : Bool → List Nat → List Char → Prop where
  | none : PowerText false [] []
  | plain {mark : Char} {digits : List Nat} (hmark : mark = 'e' ∨ mark = 'E')
      (hdigits : IsDigits digits) : PowerText false digits (mark :: digitChars digits)
  | plus {mark : Char} {digits : List Nat} (hmark : mark = 'e' ∨ mark = 'E')
      (hdigits : IsDigits digits) : PowerText false digits (mark :: '+' :: digitChars digits)
  | minus {mark : Char} {digits : List Nat} (hmark : mark = 'e' ∨ mark = 'E')
      (hdigits : IsDigits digits) : PowerText true digits (mark :: '-' :: digitChars digits)

inductive NumberText : Figures → List Char → Prop where
  | intro {negative powerNegative : Bool} {whole fraction power : List Nat}
      {fractionChars powerChars : List Char} (hwhole : IsDigits whole)
      (hleading : whole = [0] ∨ whole.head? ≠ some 0)
      (hfraction : FractionText fraction fractionChars)
      (hpower : PowerText powerNegative power powerChars) :
      NumberText ⟨negative, whole, fraction, powerNegative, power⟩
        ((if negative then ['-'] else []) ++ digitChars whole ++ fractionChars ++ powerChars)

/-! ## Strings -/

/-- The letters behind a backslash, each with the character that it means. -/
def escapes : List (Char × Char) :=
  [('"', '"'), ('\\', '\\'), ('/', '/'), ('b', '\x08'), ('f', '\x0c'), ('n', '\n'), ('r', '\r'),
    ('t', '\t')]

/-- The second half of a pair comes first among the pieces. -/
def StartsWithSecond (pieces : List Piece) : Prop :=
  ∃ unit rest, pieces = .half unit :: rest ∧ 0xDC00 ≤ unit

/-- Pieces of a string, and what may be written for them between quotation marks. -/
inductive StringText : List Piece → List Char → Prop where
  | nil : StringText [] []
  | plain {c : Char} {pieces : List Piece} {cs : List Char} (hquote : c ≠ '"')
      (hescape : c ≠ '\\') (hcontrol : 0x20 ≤ c.toNat) (h : StringText pieces cs) :
      StringText (.char c :: pieces) (c :: cs)
  | letter {letter c : Char} {pieces : List Piece} {cs : List Char}
      (hletter : (letter, c) ∈ escapes) (h : StringText pieces cs) :
      StringText (.char c :: pieces) ('\\' :: letter :: cs)
  | code {d₁ d₂ d₃ d₄ : Char} {unit : Nat} {pieces : List Piece} {cs : List Char}
      (hunit : Text.natural? 16 [d₁, d₂, d₃, d₄] = some unit)
      (hwhole : unit < 0xD800 ∨ 0xE000 ≤ unit) (h : StringText pieces cs) :
      StringText (.char (Char.ofNat unit) :: pieces)
        ('\\' :: 'u' :: d₁ :: d₂ :: d₃ :: d₄ :: cs)
  | pair {d₁ d₂ d₃ d₄ e₁ e₂ e₃ e₄ : Char} {high low : Nat} {pieces : List Piece}
      {cs : List Char} (hhigh : Text.natural? 16 [d₁, d₂, d₃, d₄] = some high)
      (hlow : Text.natural? 16 [e₁, e₂, e₃, e₄] = some low)
      (hfirst : 0xD800 ≤ high ∧ high < 0xDC00) (hsecond : 0xDC00 ≤ low ∧ low < 0xE000)
      (h : StringText pieces cs) :
      StringText
        (.char (Char.ofNat ((high - 0xD800) * 0x400 + (low - 0xDC00) + 0x10000)) :: pieces)
        ('\\' :: 'u' :: d₁ :: d₂ :: d₃ :: d₄ :: '\\' :: 'u' :: e₁ :: e₂ :: e₃ :: e₄ :: cs)
  /-- A first half that a second half follows is none, but part of a pair. -/
  | half {d₁ d₂ d₃ d₄ : Char} {unit : Nat} {pieces : List Piece} {cs : List Char}
      (hunit : Text.natural? 16 [d₁, d₂, d₃, d₄] = some unit)
      (hhalf : 0xD800 ≤ unit ∧ unit < 0xE000)
      (halone : unit < 0xDC00 → ¬ StartsWithSecond pieces) (h : StringText pieces cs) :
      StringText (.half unit :: pieces) ('\\' :: 'u' :: d₁ :: d₂ :: d₃ :: d₄ :: cs)

/-! ## Trees -/

mutual

inductive ValueText : Tree → List Char → Prop where
  | null : ValueText .null ['n', 'u', 'l', 'l']
  | true : ValueText (.bool Bool.true) ['t', 'r', 'u', 'e']
  | false : ValueText (.bool Bool.false) ['f', 'a', 'l', 's', 'e']
  | number {figures : Figures} {cs : List Char} (h : NumberText figures cs) :
      ValueText (.number figures) cs
  | string {pieces : List Piece} {cs : List Char} (h : StringText pieces cs) :
      ValueText (.string pieces) ('"' :: (cs ++ ['"']))
  | emptyList {cs : List Char} (h : Blank cs) : ValueText (.list []) ('[' :: (cs ++ [']']))
  | list {items : List Tree} {cs : List Char} (h : ItemsText items cs) :
      ValueText (.list items) ('[' :: (cs ++ [']']))
  | emptyObject {cs : List Char} (h : Blank cs) :
      ValueText (.object []) ('\x7b' :: (cs ++ ['\x7d']))
  | object {members : List (List Piece × Tree)} {cs : List Char} (h : MembersText members cs) :
      ValueText (.object members) ('\x7b' :: (cs ++ ['\x7d']))

/-- A value with blanks around it. -/
inductive PaddedText : Tree → List Char → Prop where
  | intro {tree : Tree} {before cs after : List Char} (hbefore : Blank before)
      (h : ValueText tree cs) (hafter : Blank after) : PaddedText tree (before ++ cs ++ after)

/-- The elements of a list that has some. -/
inductive ItemsText : List Tree → List Char → Prop where
  | last {item : Tree} {cs : List Char} (h : PaddedText item cs) : ItemsText [item] cs
  | more {item : Tree} {items : List Tree} {cs rest : List Char} (h : PaddedText item cs)
      (hrest : ItemsText items rest) : ItemsText (item :: items) (cs ++ ',' :: rest)

/-- A name and its value. -/
inductive MemberText : List Piece × Tree → List Char → Prop where
  | intro {before name after cs : List Char} {pieces : List Piece} {tree : Tree}
      (hbefore : Blank before) (hname : StringText pieces name) (hafter : Blank after)
      (h : PaddedText tree cs) :
      MemberText (pieces, tree) (before ++ '"' :: (name ++ '"' :: (after ++ ':' :: cs)))

/-- The members of an object that has some. -/
inductive MembersText : List (List Piece × Tree) → List Char → Prop where
  | last {member : List Piece × Tree} {cs : List Char} (h : MemberText member cs) :
      MembersText [member] cs
  | more {member : List Piece × Tree} {members : List (List Piece × Tree)}
      {cs rest : List Char} (h : MemberText member cs) (hrest : MembersText members rest) :
      MembersText (member :: members) (cs ++ ',' :: rest)

end

/-- A text that may be written for the tree. -/
def Tree.IsText (tree : Tree) (text : String) : Prop :=
  PaddedText tree text.toList

end TemplateTree.Json
