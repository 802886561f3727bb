import ApiBindings.Json.Token
import ApiBindings.Text.Quoted

/-!
Text between quotes, read back: each sign is found again behind what stands for
it, and the quote at the end is the first that ends the text.
-/

namespace ApiBindings.Text

open Json (Token)
open Json.Token (textUnits? hexValue? hexUnit? escaped? scan?)

/-- The text that a literal between quotes stands for, nothing behind it. -/
def literalText? (literal : String) : Option String :=
  match scan? literal.toList with
  | some (.text s, []) => s
  | _ => none

/-- Every quote stands behind a backslash, and every backslash before a sign. -/
inductive QuotesEscaped : List Char → Prop
  | nil : QuotesEscaped []
  | sign {c : Char} {cs : List Char} (quote : c ≠ '"') (backslash : c ≠ '\\')
      (rest : QuotesEscaped cs) : QuotesEscaped (c :: cs)
  | escape (c : Char) {cs : List Char} (rest : QuotesEscaped cs) :
      QuotesEscaped ('\\' :: c :: cs)

variable {c : Char} {cs rest : List Char}

theorem hexValue?_hexDigit {n : Nat} (small : n < 16) :
    hexValue? (hexDigit n) = some n := by
  have all : ∀ n < 16, hexValue? (hexDigit n) = some n := by decide
  exact all n small

theorem hexUnit?_of_control (control : c.toNat < 32) :
    hexUnit? '0' '0' (hexDigit (c.toNat / 16)) (hexDigit (c.toNat % 16)) =
      some c.toNat := by
  have high := hexValue?_hexDigit (n := c.toNat / 16) (by omega)
  have low := hexValue?_hexDigit (n := c.toNat % 16) (by omega)
  have zero : hexValue? '0' = some 0 := by decide
  simp only [hexUnit?, high, low, zero, Option.bind_eq_bind, Option.bind_some,
    Option.pure_def, Option.some.injEq]
  omega

def withSign (c : Char) (read : Option (List Unit16 × List Char)) :
    Option (List Unit16 × List Char) :=
  read.map fun (units, rest) => (.char c :: units, rest)

theorem textUnits?_sign (quote : c ≠ '"') (backslash : c ≠ '\\')
    (visible : ¬ c.toNat < 32) :
    textUnits? (c :: rest) = withSign c (textUnits? rest) := by
  rw [textUnits?, if_neg visible]
  · cases textUnits? rest <;> rfl
  · exact quote
  · exact fun _ _ _ _ _ same _ => backslash same
  · exact fun _ _ same _ => backslash same

theorem textUnits?_escape {letter : Char} (short : letter ≠ 'u')
    (stands : escaped? letter = some c) :
    textUnits? ('\\' :: letter :: rest) = withSign c (textUnits? rest) := by
  rw [textUnits?, stands]
  · cases textUnits? rest <;> rfl
  · exact fun _ _ _ _ _ same _ => short same

theorem textUnits?_control (control : c.toNat < 32) :
    textUnits? ('\\' :: 'u' :: '0' :: '0' :: hexDigit (c.toNat / 16) ::
      hexDigit (c.toNat % 16) :: rest) = withSign c (textUnits? rest) := by
  have whole : Unit16.ofNat c.toNat = .char c := by
    rw [Unit16.ofNat, if_neg (by omega), if_neg (by omega), Char.ofNat_toNat]
  rw [textUnits?, hexUnit?_of_control control]
  cases textUnits? rest with
  | none => rfl
  | some read =>
      obtain ⟨units, rest⟩ := read
      exact congrArg (fun u => some (u :: units, rest)) whole

theorem textUnits?_escapeChar (c : Char) (rest : List Char) :
    textUnits? (escapeChar c ++ rest) = withSign c (textUnits? rest) := by
  fun_cases escapeChar c
  case case1 same =>
    subst same
    exact textUnits?_escape (by decide) rfl
  case case2 same =>
    subst same
    exact textUnits?_escape (by decide) rfl
  case case3 same =>
    subst same
    exact textUnits?_escape (by decide) rfl
  case case4 same =>
    subst same
    exact textUnits?_escape (by decide) rfl
  case case5 same =>
    subst same
    exact textUnits?_escape (by decide) rfl
  case case6 same =>
    obtain rfl : c = '\x08' := Char.toNat_inj.mp same
    exact textUnits?_escape (by decide) rfl
  case case7 same =>
    obtain rfl : c = '\x0c' := Char.toNat_inj.mp same
    exact textUnits?_escape (by decide) rfl
  case case8 control => exact textUnits?_control control
  case case9 quote backslash _ _ _ _ _ visible =>
    exact textUnits?_sign quote backslash visible

theorem textUnits?_quoted (cs rest : List Char) :
    textUnits? (cs.flatMap escapeChar ++ '"' :: rest) =
      some (cs.map .char, rest) := by
  induction cs with
  | nil => rfl
  | cons c cs induction =>
      rw [List.flatMap_cons, List.append_assoc, textUnits?_escapeChar, induction]
      rfl

theorem joinUnits_chars (cs : List Char) :
    joinUnits (cs.map .char) = some cs := by
  induction cs with
  | nil => rfl
  | cons c cs induction => rw [List.map_cons, joinUnits, induction, Option.map_some]

theorem literalText?_quote (s : String) : literalText? (quote s) = some s := by
  have scanned : scan? (quote s).toList = some (.text (some s), []) := by
    rw [quote, String.toList_ofList, quoteChars, scan?]
    simp only [textUnits?_quoted, Option.map_some, joinUnits_chars,
      String.ofList_toList]
  rw [literalText?, scanned]

theorem hexDigit_plain {n : Nat} (small : n < 16) :
    32 ≤ (hexDigit n).toNat ∧ hexDigit n ≠ '"' ∧ hexDigit n ≠ '\\' := by
  have all : ∀ n < 16, 32 ≤ (hexDigit n).toNat ∧ hexDigit n ≠ '"' ∧
      hexDigit n ≠ '\\' := by decide
  exact all n small

theorem visible_escapeChar (c : Char) : ∀ d ∈ escapeChar c, 32 ≤ d.toNat := by
  fun_cases escapeChar c
  case case8 control =>
    have high := hexDigit_plain (n := c.toNat / 16) (by omega)
    have low := hexDigit_plain (n := c.toNat % 16) (by omega)
    simp only [List.forall_mem_cons]
    exact ⟨by decide, by decide, by decide, by decide, high.1, low.1, nofun⟩
  case case9 visible =>
    simpa using visible
  all_goals
    rw [List.forall_mem_cons, List.forall_mem_singleton]
    decide

theorem QuotesEscaped.append (first : QuotesEscaped cs)
    (second : QuotesEscaped rest) : QuotesEscaped (cs ++ rest) := by
  induction first with
  | nil => exact second
  | sign quote backslash _ induction => exact .sign quote backslash induction
  | escape c _ induction => exact .escape c induction

theorem quotesEscaped_escapeChar (c : Char) : QuotesEscaped (escapeChar c) := by
  fun_cases escapeChar c
  case case8 control =>
    obtain ⟨_, highQuote, highSlash⟩ :=
      hexDigit_plain (n := c.toNat / 16) (by omega)
    obtain ⟨_, lowQuote, lowSlash⟩ :=
      hexDigit_plain (n := c.toNat % 16) (by omega)
    exact .escape 'u' (.sign (by decide) (by decide) (.sign (by decide)
      (by decide) (.sign highQuote highSlash (.sign lowQuote lowSlash .nil))))
  case case9 quote backslash _ _ _ _ _ _ => exact .sign quote backslash .nil
  all_goals exact .escape _ .nil

/-- Between its quotes, a quoted text has no control characters, and no quote
that would end it. -/
theorem exists_quoted_body (s : String) :
    ∃ body, (quote s).toList = '"' :: (body ++ ['"']) ∧
      (∀ c ∈ body, 32 ≤ c.toNat) ∧ QuotesEscaped body := by
  refine ⟨s.toList.flatMap escapeChar, ?_, ?_, ?_⟩
  · rw [quote, String.toList_ofList, quoteChars]
  · intro d member
    obtain ⟨c, _, inside⟩ := List.mem_flatMap.mp member
    exact visible_escapeChar c d inside
  · induction s.toList with
    | nil => exact .nil
    | cons c cs induction => exact (quotesEscaped_escapeChar c).append induction

end ApiBindings.Text
