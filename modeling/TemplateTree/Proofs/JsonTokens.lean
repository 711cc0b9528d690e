import TemplateTree.Json.Grammar
import TemplateTree.Json.Token
import Mathlib.Tactic.IntervalCases

/-!
# The tokens of a text that the grammar allows

`Tree.tokensThen` gives the tokens of a tree, which its texts have in common, in front of
those that come after. The blanks around values, the ways to escape a character and the ways
to write a power of ten are what texts may differ in, and `tokens` sees none of it
(`tokens_eq`). A number that is out of range and a string with half a pair in it are broken
tokens, and nothing comes after them, so that the tokens of a tree cannot be told apart from
what is behind it.

The grammar says what a token is and `tokens` reads characters one by one, so for each of
its rules there is a lemma that tells how the reading goes on behind the characters of the
rule, whatever they are followed by. A number alone has no end of its own. It ends in front
of a character that cannot go on with it, and `Ends` says that what follows is such a
character: in a text it is a blank, a comma, the end of what is open, or nothing.
-/

namespace TemplateTree.Json

def numberThen (figures : Figures) (after : List Token) : List Token :=
  if figures.numeral.InRange then .number figures.numeral.value :: after
  else [.broken .malformed]

def stringThen (pieces : List Piece) (after : List Token) : List Token :=
  if Complete pieces then .string (textOf pieces) :: after else [.brokenString .malformed]

namespace Tree

mutual

/-- The tokens of a tree, and those that come after. -/
def tokensThen : Tree → List Token → List Token
  | .null, after => .null :: after
  | .bool b, after => .bool b :: after
  | .number figures, after => numberThen figures after
  | .string pieces, after => stringThen pieces after
  | .list items, after => .openList :: itemsThen items after
  | .object members, after => .openObject :: membersThen members after

/-- The elements of a list with the commas between them, and its end. -/
def itemsThen : List Tree → List Token → List Token
  | [], after => .closeList :: after
  | [item], after => item.tokensThen (.closeList :: after)
  | item :: next :: items, after => item.tokensThen (.comma :: itemsThen (next :: items) after)

/-- The members of an object with the commas between them, and its end. -/
def membersThen : List (List Piece × Tree) → List Token → List Token
  | [], after => .closeObject :: after
  | [(name, tree)], after => stringThen name (.colon :: tree.tokensThen (.closeObject :: after))
  | (name, tree) :: next :: members, after =>
      stringThen name (.colon :: tree.tokensThen (.comma :: membersThen (next :: members) after))

end

end Tree

/-! ## From characters to tokens -/

theorem tokensFrom_blank {blanks : List Char} (h : Blank blanks) (rest : List Char) :
    tokensFrom .between (blanks ++ rest) = tokensFrom .between rest := by
  induction blanks with
  | nil => rfl
  | cons c blanks ih =>
      obtain ⟨hc, hblanks⟩ := List.forall_mem_cons.mp h
      have hbegin : Mode.begin c = ([], .between) := by
        rcases hc with rfl | rfl | rfl | rfl
        · rfl
        · rfl
        · rfl
        · rfl
      rw [List.cons_append, tokensFrom, Mode.step, hbegin]
      exact ih hblanks

theorem tokensFrom_lost (rest : List Char) : tokensFrom .lost rest = [] := by
  induction rest with
  | nil => rfl
  | cons c rest ih => exact ih

/-! ### Strings -/

section Strings

variable {read : List Char}

theorem utf8Size_of_hexDigit? {c : Char} {d : Nat} (h : Text.hexDigit? c = some d) :
    c.utf8Size = 1 := by
  have hle : c ≤ 'f' := by
    rw [Text.hexDigit?] at h
    split at h
    · next hc => exact Char.le_trans hc.2 (by decide)
    · split at h
      · next hc => exact hc.2
      · split at h
        · next hc => exact Char.le_trans hc.2 (by decide)
        · cases h
  refine Char.utf8Size_eq_one_iff.mpr ?_
  exact Nat.le_trans (show c.val.toNat ≤ 'f'.val.toNat from hle) (by decide)

theorem stepString_digit {c : Char} {d : Nat} (h : Text.hexDigit? c = some d)
    (high? : Option Nat) {bytes : Nat} (hbytes : bytes < 3) (unit : Nat) :
    Mode.stepString read c (.code high? bytes (some unit))
      = ([], .string read (.code high? (bytes + 1) (some (unit * 16 + d)))) := by
  simp only [Mode.stepString, utf8Size_of_hexDigit? h, h]
  exact if_pos (by omega)

theorem stepString_lastDigit {c : Char} {d : Nat} (h : Text.hexDigit? c = some d)
    (high? : Option Nat) (unit : Nat) :
    Mode.stepString read c (.code high? 3 (some unit))
      = match closeUnit? high? (unit * 16 + d) with
        | some (.inl meant) => ([], .string (meant :: read) .plain)
        | some (.inr high) => ([], .string read (.pair high))
        | none => ([.brokenString .malformed], .lost) := by
  simp only [Mode.stepString, utf8Size_of_hexDigit? h, h]
  exact if_neg (by omega)

theorem natural?_cons_eq_some_iff {c : Char} {digits : List Char} {start unit : Nat} :
    (c :: digits).foldlM (fun n c => do
        let d ← Text.hexDigit? c
        if d < 16 then some (n * 16 + d) else none) start = some unit
      ↔ ∃ d, Text.hexDigit? c = some d ∧ d < 16 ∧ digits.foldlM (fun n c => do
        let d ← Text.hexDigit? c
        if d < 16 then some (n * 16 + d) else none) (start * 16 + d) = some unit := by
  rw [List.foldlM_cons]
  cases hd : Text.hexDigit? c with
  | none => simp
  | some d =>
      by_cases hlt : d < 16
      · simp [hlt]
      · simp [hlt]

/-- Four digits of a code, whatever is made of their number. -/
theorem tokensFrom_code {high? : Option Nat} {d₁ d₂ d₃ d₄ : Char} {unit : Nat}
    (h : Text.natural? 16 [d₁, d₂, d₃, d₄] = some unit) (rest : List Char) :
    tokensFrom (.string read (.code high? 0 (some 0))) (d₁ :: d₂ :: d₃ :: d₄ :: rest)
      = match closeUnit? high? unit with
        | some (.inl meant) => tokensFrom (.string (meant :: read) .plain) rest
        | some (.inr high) => tokensFrom (.string read (.pair high)) rest
        | none => .brokenString .malformed :: tokensFrom .lost rest := by
  simp only [Text.natural?, natural?_cons_eq_some_iff, List.foldlM_nil] at h
  obtain ⟨x₁, h₁, -, x₂, h₂, -, x₃, h₃, -, x₄, h₄, -, hunit⟩ := h
  obtain rfl := Option.some.inj hunit
  rw [tokensFrom, Mode.step, stepString_digit h₁ _ (by decide)]
  rw [tokensFrom, Mode.step, stepString_digit h₂ _ (by decide)]
  rw [tokensFrom, Mode.step, stepString_digit h₃ _ (by decide)]
  rw [tokensFrom, Mode.step, stepString_lastDigit h₄]
  split
  · rfl
  · rfl
  · rfl

/-- The tokens of a string of which `read` has been read and the pieces are to come. -/
def stringTokens (read : List Char) (pieces : List Piece) (rest : List Char) : List Token :=
  if Complete pieces then
    .string (String.ofList (read.reverse ++ pieces.filterMap Piece.char?))
      :: tokensFrom .between rest
  else [.brokenString .malformed]

theorem stringTokens_char (c : Char) (pieces : List Piece) (rest : List Char) :
    stringTokens read (.char c :: pieces) rest = stringTokens (c :: read) pieces rest := by
  simp only [stringTokens, complete_cons_char, List.filterMap_cons, Piece.char?,
    List.reverse_cons, List.append_assoc, List.singleton_append]

theorem stringTokens_half (unit : Nat) (pieces : List Piece) (rest : List Char) :
    stringTokens read (.half unit :: pieces) rest = [.brokenString .malformed] :=
  if_neg (not_complete_cons_half unit pieces)

theorem unescape?_of_mem_escapes {letter c : Char} (h : (letter, c) ∈ escapes) :
    unescape? letter = some c := by
  have hall : ∀ escape ∈ escapes, unescape? escape.1 = some escape.2 := by decide
  exact hall _ h

theorem ne_u_of_mem_escapes {letter c : Char} (h : (letter, c) ∈ escapes) : letter ≠ 'u' := by
  intro hu
  subst hu
  cases unescape?_of_mem_escapes h

/-- Behind the first half of a pair, the code of anything but the second half is wrong. -/
theorem tokensFrom_pair_code {d₁ d₂ d₃ d₄ : Char} {unit : Nat}
    (h : Text.natural? 16 [d₁, d₂, d₃, d₄] = some unit)
    (hunit : ¬ (0xDC00 ≤ unit ∧ unit < 0xE000)) (high : Nat) (rest : List Char) :
    tokensFrom (.string read (.pair high)) ('\\' :: 'u' :: d₁ :: d₂ :: d₃ :: d₄ :: rest)
      = [.brokenString .malformed] := by
  show tokensFrom (.string read (.code (some high) 0 (some 0))) (d₁ :: d₂ :: d₃ :: d₄ :: rest) = _
  have hclose : closeUnit? (some high) unit = none := by
    rw [closeUnit?, if_neg hunit]
  rw [tokensFrom_code h, hclose, tokensFrom_lost]

/-- Whatever may be written behind the first half of a pair, it is wrong there, unless it is
the second half. -/
theorem tokensFrom_pair {pieces : List Piece} {cs : List Char} (h : StringText pieces cs)
    (halone : ¬ StartsWithSecond pieces) (high : Nat) (rest : List Char) :
    tokensFrom (.string read (.pair high)) (cs ++ '"' :: rest) = [.brokenString .malformed] := by
  cases h with
  | nil => exact congrArg (Token.brokenString .malformed :: ·) (tokensFrom_lost rest)
  | @plain c _ cs _ hescape _ _ =>
      have hstep : Mode.stepString read c (.pair high) = ([.brokenString .malformed], .lost) := by
        rw [Mode.stepString, if_neg hescape]
      rw [List.cons_append, tokensFrom, Mode.step, hstep, tokensFrom_lost]
      rfl
  | @letter letter c _ cs hletter _ =>
      have hstep : Mode.stepString read letter (.pairEscape high)
          = ([.brokenString .malformed], .lost) := by
        rw [Mode.stepString, if_neg (ne_u_of_mem_escapes hletter)]
      show tokensFrom (.string read (.pairEscape high)) (letter :: (cs ++ '"' :: rest)) = _
      rw [tokensFrom, Mode.step, hstep, tokensFrom_lost]
      rfl
  | code hunit hwhole _ => exact tokensFrom_pair_code hunit (by omega) high _
  | pair hhigh _ hfirst _ _ => exact tokensFrom_pair_code hhigh (by omega) high _
  | half hunit _ _ _ =>
      refine tokensFrom_pair_code hunit (fun hsecond => halone ?_) high _
      exact ⟨_, _, rfl, hsecond.1⟩

theorem tokensFrom_string {pieces : List Piece} {cs : List Char} (h : StringText pieces cs)
    (read rest : List Char) :
    tokensFrom (.string read .plain) (cs ++ '"' :: rest) = stringTokens read pieces rest := by
  induction h generalizing read with
  | nil =>
      have hcomplete : Complete [] := nofun
      rw [stringTokens, if_pos hcomplete, List.filterMap_nil, List.append_nil]
      rfl
  | @plain c pieces cs hquote hescape hcontrol _ ih =>
      have hstep : Mode.stepString read c .plain = ([], .string (c :: read) .plain) := by
        rw [Mode.stepString, if_neg hquote, if_neg hescape, if_neg (Nat.not_lt.mpr hcontrol)]
      rw [List.cons_append, tokensFrom, Mode.step, hstep, stringTokens_char]
      exact ih (c :: read)
  | @letter letter c pieces cs hletter _ ih =>
      have hstep : Mode.stepString read letter .escape = ([], .string (c :: read) .plain) := by
        rw [Mode.stepString, if_neg (ne_u_of_mem_escapes hletter),
          unescape?_of_mem_escapes hletter]
      show tokensFrom (.string read .escape) (letter :: (cs ++ '"' :: rest)) = _
      rw [tokensFrom, Mode.step, hstep, stringTokens_char]
      exact ih (c :: read)
  | @code d₁ d₂ d₃ d₄ unit pieces cs hunit hwhole _ ih =>
      have hclose : closeUnit? none unit = some (.inl (Char.ofNat unit)) := by
        rw [closeUnit?, if_neg (by omega), if_neg (by omega)]
      show tokensFrom (.string read (.code none 0 (some 0)))
        (d₁ :: d₂ :: d₃ :: d₄ :: (cs ++ '"' :: rest)) = _
      rw [tokensFrom_code hunit, hclose, stringTokens_char]
      exact ih (Char.ofNat unit :: read)
  | @pair d₁ d₂ d₃ d₄ e₁ e₂ e₃ e₄ high low pieces cs hhigh hlow hfirst hsecond _ ih =>
      have hopen : closeUnit? none high = some (.inr high) := by
        rw [closeUnit?, if_pos hfirst]
      have hclose : closeUnit? (some high) low
          = some (.inl (Char.ofNat ((high - 0xD800) * 0x400 + (low - 0xDC00) + 0x10000))) := by
        rw [closeUnit?, if_pos hsecond]
      show tokensFrom (.string read (.code none 0 (some 0)))
        (d₁ :: d₂ :: d₃ :: d₄ :: '\\' :: 'u' :: e₁ :: e₂ :: e₃ :: e₄ :: (cs ++ '"' :: rest)) = _
      rw [tokensFrom_code hhigh, hopen]
      show tokensFrom (.string read (.code (some high) 0 (some 0)))
        (e₁ :: e₂ :: e₃ :: e₄ :: (cs ++ '"' :: rest)) = _
      rw [tokensFrom_code hlow, hclose, stringTokens_char]
      exact ih (_ :: read)
  | @half d₁ d₂ d₃ d₄ unit pieces cs hunit hhalf halone htext _ =>
      show tokensFrom (.string read (.code none 0 (some 0)))
        (d₁ :: d₂ :: d₃ :: d₄ :: (cs ++ '"' :: rest)) = _
      rw [tokensFrom_code hunit, stringTokens_half]
      by_cases hfirst : unit < 0xDC00
      · have hopen : closeUnit? none unit = some (.inr unit) := by
          rw [closeUnit?, if_pos ⟨hhalf.1, hfirst⟩]
        rw [hopen]
        exact tokensFrom_pair htext (halone hfirst) unit rest
      · have hclose : closeUnit? none unit = none := by
          rw [closeUnit?, if_neg (by omega), if_pos (by omega)]
        rw [hclose, tokensFrom_lost]

end Strings

/-! ### Numbers -/

/-- Characters in front of which a number ends. -/
def Ends (rest : List Char) : Prop :=
  ∀ c ∈ rest.head?, Text.digit? c = none ∧ c ≠ '.' ∧ c ≠ 'e' ∧ c ≠ 'E'

theorem ends_nil : Ends [] := nofun

theorem ends_of_blank {blanks rest : List Char} (h : Blank blanks) (hrest : Ends rest) :
    Ends (blanks ++ rest) := by
  cases blanks with
  | nil => exact hrest
  | cons c blanks =>
      intro c' hc'
      obtain rfl := Option.some.inj hc'
      rcases h c List.mem_cons_self with rfl | rfl | rfl | rfl
      · decide
      · decide
      · decide
      · decide

section Numbers

variable {n n' : Numeral} {c : Char} {d : Nat}

theorem digit?_hexDigit (h : d < 10) : Text.digit? (Text.hexDigit d) = some d := by
  have hall : ∀ d < 10, Text.digit? (Text.hexDigit d) = some d := by decide
  exact hall d h

theorem tokensFrom_more (h : n.grow c = .more n') (rest : List Char) :
    tokensFrom (.number n) (c :: rest) = tokensFrom (.number n') rest := by
  rw [tokensFrom, Mode.step, h]
  rfl

/-- Digits go where the first of them goes. -/
theorem tokensFrom_digits {place : List Nat → Numeral}
    (hgrow : ∀ read d, d < 10 → (place read).grow (Text.hexDigit d) = .more (place (d :: read)))
    {digits : List Nat} (hdigits : ∀ d ∈ digits, d < 10) (read : List Nat) (rest : List Char) :
    tokensFrom (.number (place read)) (digitChars digits ++ rest)
      = tokensFrom (.number (place (digits.reverse ++ read))) rest := by
  induction digits generalizing read with
  | nil => rfl
  | cons d digits ih =>
      obtain ⟨hd, hdigits⟩ := List.forall_mem_cons.mp hdigits
      refine (tokensFrom_more (hgrow read d hd) _).trans ?_
      rw [List.reverse_cons, List.append_assoc, List.singleton_append]
      exact ih hdigits (d :: read)

theorem tokensFrom_isDigits {start : Numeral} {place : List Nat → Numeral}
    (hfirst : ∀ d, d < 10 → start.grow (Text.hexDigit d) = .more (place [d]))
    (hgrow : ∀ read d, d < 10 → (place read).grow (Text.hexDigit d) = .more (place (d :: read)))
    {digits : List Nat} (h : IsDigits digits) (rest : List Char) :
    tokensFrom (.number start) (digitChars digits ++ rest)
      = tokensFrom (.number (place digits.reverse)) rest := by
  obtain ⟨hne, hdigits⟩ := h
  cases digits with
  | nil => exact absurd rfl hne
  | cons d digits =>
      obtain ⟨hd, hdigits⟩ := List.forall_mem_cons.mp hdigits
      refine (tokensFrom_more (hfirst d hd) _).trans ?_
      rw [List.reverse_cons]
      exact tokensFrom_digits hgrow hdigits [d] rest

/-- A number ends in front of what cannot go on with it, and is a token if it is in range. -/
theorem tokensFrom_ends (hstage : n.stage.isEnd = true) {rest : List Char} (hrest : Ends rest) :
    tokensFrom (.number n) rest
      = if n.InRange then .number n.value :: tokensFrom .between rest
        else [.broken .malformed] := by
  cases rest with
  | nil =>
      rw [tokensFrom, Mode.finish, if_pos hstage, Mode.numberToken, Numeral.value?]
      by_cases hrange : n.InRange
      · rw [if_pos hrange, if_pos hrange]
        rfl
      · rw [if_neg hrange, if_neg hrange]
  | cons c rest =>
      obtain ⟨hdigit, hpoint, he, hE⟩ := hrest c rfl
      have hends : n.grow c = .ends := by
        unfold Numeral.grow
        rw [hdigit]
        cases hs : n.stage with
        | zero | whole => simp [hpoint, he, hE]
        | fraction => simp [he, hE]
        | power => rfl
        | sign | point | mark | markSign => rw [hs] at hstage; cases hstage
      rw [tokensFrom, Mode.step, hends]
      simp only [Numeral.value?]
      by_cases hrange : n.InRange
      · rw [if_pos hrange, if_pos hrange]
        rfl
      · rw [if_neg hrange, if_neg hrange]
        exact congrArg (Token.broken .malformed :: ·) (tokensFrom_lost rest)

theorem begin_digit (h : d < 10) : Mode.begin (Text.hexDigit d)
    = ([], .number ⟨false, [d], [], false, [], if d = 0 then .zero else .whole⟩) := by
  interval_cases d
  all_goals rfl

theorem grow_sign {w f p : List Nat} {b b' : Bool} (h : d < 10) :
    (Numeral.mk b w f b' p .sign).grow (Text.hexDigit d)
      = .more ⟨b, [d], f, b', p, if d = 0 then .zero else .whole⟩ := by
  unfold Numeral.grow
  rw [digit?_hexDigit h]
  cases d with
  | zero => rfl
  | succ d => rfl

theorem grow_digit {w f p : List Nat} {b b' : Bool} {stage : Stage} (h : d < 10) :
    (stage = .whole → (Numeral.mk b w f b' p stage).grow (Text.hexDigit d)
        = .more ⟨b, d :: w, f, b', p, .whole⟩)
      ∧ (stage = .point ∨ stage = .fraction →
        (Numeral.mk b w f b' p stage).grow (Text.hexDigit d)
          = .more ⟨b, w, d :: f, b', p, .fraction⟩)
      ∧ (stage = .mark ∨ stage = .markSign ∨ stage = .power →
        (Numeral.mk b w f b' p stage).grow (Text.hexDigit d)
          = .more ⟨b, w, f, b', d :: p, .power⟩) := by
  unfold Numeral.grow
  rw [digit?_hexDigit h]
  refine ⟨fun hstage => ?_, fun hstage => ?_, fun hstage => ?_⟩
  · rw [hstage]
  · rcases hstage with rfl | rfl
    · rfl
    · rfl
  · rcases hstage with rfl | rfl | rfl
    · rfl
    · rfl
    · rfl

theorem grow_mark {w f : List Nat} {b : Bool} {stage : Stage}
    (hstage : stage = .zero ∨ stage = .whole ∨ stage = .fraction) {mark : Char}
    (hmark : mark = 'e' ∨ mark = 'E') :
    (Numeral.mk b w f false [] stage).grow mark = .more ⟨b, w, f, false, [], .mark⟩ := by
  rcases hstage with rfl | rfl | rfl
  all_goals
    rcases hmark with rfl | rfl
    · rfl
    · rfl

theorem tokensFrom_whole (negative : Bool) {whole : List Nat} (hwhole : IsDigits whole)
    (hleading : whole = [0] ∨ whole.head? ≠ some 0) (rest : List Char) :
    ∃ stage, (stage = .zero ∨ stage = .whole)
      ∧ tokensFrom .between ((if negative then ['-'] else []) ++ digitChars whole ++ rest)
        = tokensFrom (.number ⟨negative, whole.reverse, [], false, [], stage⟩) rest := by
  obtain ⟨hne, hdigits⟩ := hwhole
  cases whole with
  | nil => exact absurd rfl hne
  | cons d digits =>
      obtain ⟨hd, hdigits⟩ := List.forall_mem_cons.mp hdigits
      have hfirst : tokensFrom .between
          ((if negative then ['-'] else []) ++ digitChars (d :: digits) ++ rest)
          = tokensFrom (.number ⟨negative, [d], [], false, [], if d = 0 then .zero else .whole⟩)
            (digitChars digits ++ rest) := by
        cases negative with
        | true => exact tokensFrom_more (grow_sign hd) _
        | false =>
            show tokensFrom .between (Text.hexDigit d :: (digitChars digits ++ rest)) = _
            rw [tokensFrom, Mode.step, begin_digit hd]
            rfl
      rw [hfirst]
      by_cases hzero : d = 0
      · have hdigits : digits = [] := by
          rcases hleading with h | h
          · exact (List.cons.inj h).2
          · exact absurd (congrArg some hzero) h
        rw [hzero, hdigits]
        exact ⟨.zero, .inl rfl, rfl⟩
      · rw [if_neg hzero]
        refine ⟨.whole, .inr rfl, ?_⟩
        have hgrow : ∀ read d, d < 10 →
            (Numeral.mk negative read [] false [] .whole).grow (Text.hexDigit d)
              = .more ⟨negative, d :: read, [], false, [], .whole⟩ :=
          fun read d hd => (grow_digit hd).1 rfl
        rw [List.reverse_cons]
        exact tokensFrom_digits hgrow hdigits [d] rest

theorem tokensFrom_fraction (negative : Bool) (whole : List Nat) {fraction : List Nat}
    {chars : List Char} {stage : Stage} (hstage : stage = .zero ∨ stage = .whole)
    (h : FractionText fraction chars) (rest : List Char) :
    ∃ stage', (stage' = .zero ∨ stage' = .whole ∨ stage' = .fraction)
      ∧ tokensFrom (.number ⟨negative, whole, [], false, [], stage⟩) (chars ++ rest)
        = tokensFrom (.number ⟨negative, whole, fraction.reverse, false, [], stage'⟩) rest := by
  cases h with
  | none => exact ⟨stage, hstage.imp_right .inl, rfl⟩
  | some hdigits =>
      have hpoint : (Numeral.mk negative whole [] false [] stage).grow '.'
          = .more ⟨negative, whole, [], false, [], .point⟩ := by
        rcases hstage with rfl | rfl
        · rfl
        · rfl
      have hfirst : ∀ d, d < 10 →
          (Numeral.mk negative whole [] false [] .point).grow (Text.hexDigit d)
            = .more ⟨negative, whole, [d], false, [], .fraction⟩ :=
        fun d hd => (grow_digit hd).2.1 (.inl rfl)
      have hgrow : ∀ read d, d < 10 →
          (Numeral.mk negative whole read false [] .fraction).grow (Text.hexDigit d)
            = .more ⟨negative, whole, d :: read, false, [], .fraction⟩ :=
        fun read d hd => (grow_digit hd).2.1 (.inr rfl)
      refine ⟨.fraction, .inr (.inr rfl), ?_⟩
      refine (tokensFrom_more hpoint _).trans ?_
      exact tokensFrom_isDigits hfirst hgrow hdigits rest

theorem tokensFrom_power (negative : Bool) (whole fraction : List Nat) {powerNegative : Bool}
    {power : List Nat} {chars : List Char} {stage : Stage}
    (hstage : stage = .zero ∨ stage = .whole ∨ stage = .fraction)
    (h : PowerText powerNegative power chars) (rest : List Char) :
    ∃ stage' : Stage, stage'.isEnd = true
      ∧ tokensFrom (.number ⟨negative, whole, fraction, false, [], stage⟩) (chars ++ rest)
        = tokensFrom (.number ⟨negative, whole, fraction, powerNegative, power.reverse, stage'⟩)
          rest := by
  have hfirst : ∀ {stage}, stage = .mark ∨ stage = .markSign ∨ stage = .power →
      ∀ powerNegative d, d < 10 →
      (Numeral.mk negative whole fraction powerNegative [] stage).grow (Text.hexDigit d)
        = .more ⟨negative, whole, fraction, powerNegative, [d], .power⟩ :=
    fun hstage _ d hd => (grow_digit hd).2.2 hstage
  have hgrow : ∀ powerNegative read d, d < 10 →
      (Numeral.mk negative whole fraction powerNegative read .power).grow (Text.hexDigit d)
        = .more ⟨negative, whole, fraction, powerNegative, d :: read, .power⟩ :=
    fun _ read d hd => (grow_digit hd).2.2 (.inr (.inr rfl))
  cases h with
  | none =>
      refine ⟨stage, ?_, rfl⟩
      rcases hstage with rfl | rfl | rfl
      · rfl
      · rfl
      · rfl
  | plain hmark hdigits =>
      refine ⟨.power, rfl, (tokensFrom_more (grow_mark hstage hmark) _).trans ?_⟩
      exact tokensFrom_isDigits (hfirst (.inl rfl) false) (hgrow false) hdigits rest
  | plus hmark hdigits =>
      refine ⟨.power, rfl, (tokensFrom_more (grow_mark hstage hmark) _).trans ?_⟩
      have hsign : (Numeral.mk negative whole fraction false [] .mark).grow '+'
          = .more ⟨negative, whole, fraction, false, [], .markSign⟩ := rfl
      refine (tokensFrom_more hsign _).trans ?_
      exact tokensFrom_isDigits (hfirst (.inr (.inl rfl)) false) (hgrow false) hdigits rest
  | minus hmark hdigits =>
      refine ⟨.power, rfl, (tokensFrom_more (grow_mark hstage hmark) _).trans ?_⟩
      have hsign : (Numeral.mk negative whole fraction false [] .mark).grow '-'
          = .more ⟨negative, whole, fraction, true, [], .markSign⟩ := rfl
      refine (tokensFrom_more hsign _).trans ?_
      exact tokensFrom_isDigits (hfirst (.inr (.inl rfl)) true) (hgrow true) hdigits rest

theorem tokensFrom_number {figures : Figures} {cs rest : List Char} (h : NumberText figures cs)
    (hrest : Ends rest) :
    tokensFrom .between (cs ++ rest) = numberThen figures (tokensFrom .between rest) := by
  cases h with
  | @intro negative powerNegative whole fraction power fractionChars powerChars hwhole hleading
      hfraction hpower =>
      obtain ⟨stage₁, hstage₁, h₁⟩ := tokensFrom_whole negative hwhole hleading
        (fractionChars ++ (powerChars ++ rest))
      obtain ⟨stage₂, hstage₂, h₂⟩ := tokensFrom_fraction negative whole.reverse hstage₁ hfraction
        (powerChars ++ rest)
      obtain ⟨stage₃, hstage₃, h₃⟩ := tokensFrom_power negative whole.reverse fraction.reverse
        hstage₂ hpower rest
      rw [List.append_assoc, List.append_assoc, h₁, h₂, h₃]
      -- How far a number has been read makes no difference to its range and its value.
      exact tokensFrom_ends hstage₃ hrest

end Numbers

/-! ### Trees -/

theorem Tree.itemsThen_cons {item : Tree} {items : List Tree} (h : items ≠ [])
    (after : List Token) :
    itemsThen (item :: items) after = item.tokensThen (.comma :: itemsThen items after) := by
  cases items with
  | nil => exact absurd rfl h
  | cons next items => rw [itemsThen]

theorem Tree.membersThen_cons {name : List Piece} {tree : Tree}
    {members : List (List Piece × Tree)} (h : members ≠ []) (after : List Token) :
    membersThen ((name, tree) :: members) after
      = stringThen name (.colon :: tree.tokensThen (.comma :: membersThen members after)) := by
  cases members with
  | nil => exact absurd rfl h
  | cons next members => rw [membersThen]

theorem ends_punctuation {c : Char} (h : c = ',' ∨ c = ']' ∨ c = '\x7d') (rest : List Char) :
    Ends (c :: rest) := by
  intro c' hc'
  obtain rfl := Option.some.inj hc'
  rcases h with rfl | rfl | rfl
  · decide
  · decide
  · decide

theorem ItemsText.ne_nil {items : List Tree} {cs : List Char} (h : ItemsText items cs) :
    items ≠ [] := by
  cases h with
  | last _ => exact List.cons_ne_nil _ _
  | more _ _ => exact List.cons_ne_nil _ _

theorem MembersText.ne_nil {members : List (List Piece × Tree)} {cs : List Char}
    (h : MembersText members cs) : members ≠ [] := by
  cases h with
  | last _ => exact List.cons_ne_nil _ _
  | more _ _ => exact List.cons_ne_nil _ _

mutual

theorem ValueText.tokensFrom_eq {tree : Tree} {cs : List Char} (h : ValueText tree cs)
    {rest : List Char} (hrest : Ends rest) :
    tokensFrom .between (cs ++ rest) = tree.tokensThen (tokensFrom .between rest) := by
  match h with
  | .null => rw [Tree.tokensThen]; rfl
  | .true => rw [Tree.tokensThen]; rfl
  | .false => rw [Tree.tokensThen]; rfl
  | .number h => rw [Tree.tokensThen]; exact tokensFrom_number h hrest
  | .string h =>
      rw [List.cons_append, List.append_assoc, Tree.tokensThen]
      exact tokensFrom_string h [] rest
  | .emptyList h =>
      rw [List.cons_append, List.append_assoc, Tree.tokensThen, Tree.itemsThen]
      exact congrArg (Token.openList :: ·) (tokensFrom_blank h (']' :: rest))
  | .list h =>
      rw [List.cons_append, List.append_assoc, Tree.tokensThen]
      exact congrArg (Token.openList :: ·) (h.tokensFrom_eq rest)
  | .emptyObject h =>
      rw [List.cons_append, List.append_assoc, Tree.tokensThen, Tree.membersThen]
      exact congrArg (Token.openObject :: ·) (tokensFrom_blank h ('\x7d' :: rest))
  | .object h =>
      rw [List.cons_append, List.append_assoc, Tree.tokensThen]
      exact congrArg (Token.openObject :: ·) (h.tokensFrom_eq rest)

theorem PaddedText.tokensFrom_eq {tree : Tree} {cs : List Char} (h : PaddedText tree cs)
    {rest : List Char} (hrest : Ends rest) :
    tokensFrom .between (cs ++ rest) = tree.tokensThen (tokensFrom .between rest) := by
  match h with
  | .intro hbefore h hafter =>
      rw [List.append_assoc, List.append_assoc, tokensFrom_blank hbefore,
        h.tokensFrom_eq (ends_of_blank hafter hrest), tokensFrom_blank hafter]

theorem ItemsText.tokensFrom_eq {items : List Tree} {cs : List Char} (h : ItemsText items cs)
    (rest : List Char) :
    tokensFrom .between (cs ++ ']' :: rest)
      = Tree.itemsThen items (tokensFrom .between rest) := by
  match h with
  | .last h =>
      rw [h.tokensFrom_eq (ends_punctuation (.inr (.inl rfl)) rest), Tree.itemsThen]
      rfl
  | .more h hrest =>
      rw [List.append_assoc, List.cons_append, h.tokensFrom_eq (ends_punctuation (.inl rfl) _),
        Tree.itemsThen_cons hrest.ne_nil, ← hrest.tokensFrom_eq]
      rfl

theorem MemberText.tokensFrom_eq {name : List Piece} {tree : Tree} {cs : List Char}
    (h : MemberText (name, tree) cs) {rest : List Char} (hrest : Ends rest) :
    tokensFrom .between (cs ++ rest)
      = stringThen name (.colon :: tree.tokensThen (tokensFrom .between rest)) := by
  match h with
  | .intro hbefore hname hafter h =>
      rw [List.append_assoc, List.cons_append, List.append_assoc, List.cons_append,
        List.append_assoc, List.cons_append, tokensFrom_blank hbefore]
      refine (tokensFrom_string hname [] _).trans (congrArg (stringThen name ·) ?_)
      rw [tokensFrom_blank hafter]
      exact congrArg (Token.colon :: ·) (h.tokensFrom_eq hrest)

theorem MembersText.tokensFrom_eq {members : List (List Piece × Tree)} {cs : List Char}
    (h : MembersText members cs) (rest : List Char) :
    tokensFrom .between (cs ++ '\x7d' :: rest)
      = Tree.membersThen members (tokensFrom .between rest) := by
  match members, h with
  | [(name, tree)], .last h =>
      rw [h.tokensFrom_eq (ends_punctuation (.inr (.inr rfl)) rest), Tree.membersThen]
      rfl
  | (name, tree) :: _, .more h hrest =>
      rw [List.append_assoc, List.cons_append, h.tokensFrom_eq (ends_punctuation (.inl rfl) _),
        Tree.membersThen_cons hrest.ne_nil, ← hrest.tokensFrom_eq]
      rfl

end

/-- A text that may be written for a tree has the tokens of the tree. -/
theorem tokens_eq {tree : Tree} {text : String} (h : tree.IsText text) :
    tokens text = tree.tokensThen [] := by
  have htokens := PaddedText.tokensFrom_eq h ends_nil
  rw [List.append_nil] at htokens
  rw [tokens, htokens, tokensFrom, Mode.finish]

end TemplateTree.Json
