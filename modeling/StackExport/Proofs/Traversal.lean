import Mathlib
import StackExport.Proofs.Lexemes
import StackExport.Reference
/-!
Traversals: the steps that lead from a value to a part of it.

A step is written as a name behind a dot or in brackets. Steps that are written one behind the other
are read back as they were.
-/
namespace StackExport.Proofs.Traversal

open StackExport
open StackExport.Proofs.TemplateReading
open StackExport.Proofs.Lexemes

inductive Step where
  | entry (key : String)
  | element (index : Nat)
  /-- A part whose key another expression gives. -/
  | computed (expression : String)
deriving DecidableEq, Repr

/-! ### Reading steps -/

def code? : Lexeme → Option Char
  | .code c => some c
  | _ => none

def char? : Lexeme → Option Char
  | .char c => some c
  | _ => none

def isName (l : Lexeme) : Bool := (code? l).any Text.isNameRest

def isInner (l : Lexeme) : Bool := (code? l).any (· != ']')

/-- The step that stands in brackets. -/
def bracketStep (inner : List Char) : Step :=
  if inner ≠ [] ∧ inner.all Char.isDigit then .element (Nat.ofDigitChars 10 inner 0)
  else .computed (String.ofList inner)

def readStep : List Lexeme → Option (Step × List Lexeme)
  | .code '.' :: rest =>
    let name := (rest.takeWhile isName).filterMap code?
    if name.isEmpty then none else some (.entry (String.ofList name), rest.dropWhile isName)
  | .code '[' :: .openQuote :: rest =>
    match rest.dropWhile fun l => (char? l).isSome with
    | .closeQuote :: .code ']' :: more =>
      let chars := rest.takeWhile fun l => (char? l).isSome
      some (.entry (String.ofList (chars.filterMap char?)), more)
    | _ => none
  | .code '[' :: rest =>
    match rest.dropWhile isInner with
    | .code ']' :: more => some (bracketStep ((rest.takeWhile isInner).filterMap code?), more)
    | _ => none
  | _ => none

def readSteps : (fuel : Nat) → List Lexeme → Option (List Step)
  | _, [] => some []
  | 0, _ => none
  | fuel + 1, ls => do
    let (step, rest) ← readStep ls
    return step :: (← readSteps fuel rest)

def steps? (ls : List Lexeme) : Option (List Step) := readSteps ls.length ls

/-! ### Writing steps -/

def Step.write : Step → String
  | .entry key => if Text.isIdentifier key then "." ++ key else "[" ++ Text.quote key ++ "]"
  | .element i => "[" ++ toString i ++ "]"
  | .computed e => "[" ++ e ++ "]"

/-- True of an expression in brackets that is made of names. -/
def Step.Plain : Step → Prop
  | .computed e =>
    e.toList.all Char.isDigit = false ∧ ∀ c ∈ e.toList, Text.isNameRest c = true ∨ c = '.'
  | _ => True

def writeAll (steps : List Step) : String := String.join (steps.map Step.write)

def Step.lexemes : Step → List Lexeme
  | .entry key =>
    if Text.isIdentifier key then .code '.' :: key.toList.map .code
    else .code '[' :: literalLexemes key ++ [.code ']']
  | .element i => .code '[' :: (Nat.toDigits 10 i).map .code ++ [.code ']']
  | .computed e => .code '[' :: e.toList.map .code ++ [.code ']']

theorem not_bracket_of_word {c : Char} (h : Text.isNameRest c = true ∨ c = '.') : c ≠ ']' := by
  rintro rfl
  rcases h with h | h <;> revert h <;> decide

theorem word_of_mem_toDigits {i : Nat} {c : Char} (h : c ∈ Nat.toDigits 10 i) :
    Text.isNameRest c = true ∨ c = '.' := by
  have hdigit := Nat.isDigit_of_mem_toDigits (by decide) (by decide) h
  exact Or.inl (by simp [Text.isNameRest, Char.isAlphanum, hdigit])

theorem lexFrom_bracketed {inner : List Char}
    (h : ∀ c ∈ inner, Text.isNameRest c = true ∨ c = '.') :
    lexFrom [.code none] ('[' :: inner ++ [']']) = .code '[' :: inner.map .code ++ [.code ']'] ∧
      run [.code none] ('[' :: inner ++ [']']) = [.code none] := by
  have hbare : ∀ c ∈ '[' :: inner ++ [']'], Bare c := by
    intro c hc
    simp only [List.cons_append, List.mem_cons, List.mem_append, List.not_mem_nil, or_false] at hc
    rcases hc with rfl | hc | rfl
    · decide
    · exact bare_of_isNameRest (h c hc)
    · decide
  simpa using lexFrom_bare hbare []

theorem lexFrom_write {step : Step} (h : step.Plain) :
    lexFrom [.code none] step.write.toList = step.lexemes ∧
      run [.code none] step.write.toList = [.code none] := by
  cases step with
  | entry key =>
      simp only [Step.write, Step.lexemes]
      split_ifs with hkey
      · have hbare : ∀ c ∈ '.' :: key.toList, Bare c := by
          intro c hc
          rcases List.mem_cons.mp hc with rfl | hc
          · decide
          · exact bare_of_isNameRest (Or.inl (isNameRest_of_isIdentifier hkey c hc))
        simpa using lexFrom_bare hbare []
      · obtain ⟨hlex, hrun⟩ := lexFrom_quote key none []
        have hsplit : ("[" ++ Text.quote key ++ "]").toList =
            ['['] ++ ((Text.quote key).toList ++ [']']) := by simp
        have hopen : run [.code none] ['['] = [.code none] := rfl
        rw [hsplit, lexFrom_append, lexFrom_append, run_append, run_append, hopen, hlex, hrun]
        exact ⟨rfl, rfl⟩
  | element i =>
      have hdigits : ∀ c ∈ Nat.toDigits 10 i, Text.isNameRest c = true ∨ c = '.' :=
        fun c => word_of_mem_toDigits
      simpa [Step.write, Step.lexemes] using lexFrom_bracketed hdigits
  | computed e => simpa [Step.write, Step.lexemes] using lexFrom_bracketed h.2

/-! ### Reading what is written -/

theorem takeWhile_map_append {α : Type} (p : α → Bool) (f : Char → α) {cs : List Char}
    (h : ∀ c ∈ cs, p (f c) = true) {rest : List α} (hrest : ∀ l ∈ rest.head?, p l = false) :
    (cs.map f ++ rest).takeWhile p = cs.map f ∧ (cs.map f ++ rest).dropWhile p = rest := by
  have hall : ∀ l ∈ cs.map f, p l = true := by
    intro l hl
    obtain ⟨c, hc, rfl⟩ := List.mem_map.mp hl
    exact h c hc
  rw [List.takeWhile_append_of_pos hall, List.dropWhile_append_of_pos hall]
  cases rest with
  | nil => simp
  | cons l rest => simp [hrest l rfl]

@[simp] theorem code?_code (c : Char) : code? (.code c) = some c := rfl

@[simp] theorem char?_char (c : Char) : char? (.char c) = some c := rfl

theorem bracketStep_digits (i : Nat) : bracketStep (Nat.toDigits 10 i) = .element i := by
  have hdigits : (Nat.toDigits 10 i).all Char.isDigit = true :=
    List.all_eq_true.mpr fun c hc => Nat.isDigit_of_mem_toDigits (by decide) (by decide) hc
  rw [bracketStep, if_pos ⟨Nat.toDigits_ne_nil, hdigits⟩, Nat.ofDigitChars_ten_toDigits]

theorem readStep_bracketed {inner : List Char}
    (h : ∀ c ∈ inner, Text.isNameRest c = true ∨ c = '.') (rest : List Lexeme) :
    readStep (.code '[' :: inner.map .code ++ [.code ']'] ++ rest) =
      some (bracketStep inner, rest) := by
  have hinner : ∀ c ∈ inner, isInner (.code c) = true := by
    intro c hc
    simpa [isInner, code?] using not_bracket_of_word (h c hc)
  have hclose : ∀ l ∈ (Lexeme.code ']' :: rest).head?, isInner l = false := by
    simp [isInner, code?]
  obtain ⟨htake, hdrop⟩ := takeWhile_map_append isInner .code hinner hclose
  rw [List.cons_append, List.cons_append, List.append_assoc, List.singleton_append, readStep]
  · simp [hdrop, htake, Function.comp_def]
  · cases inner <;> simp

theorem readStep_lexemes {step : Step} (h : step.Plain) {rest : List Lexeme}
    (hrest : ∀ l ∈ rest.head?, isName l = false) :
    readStep (step.lexemes ++ rest) = some (step, rest) := by
  cases step with
  | entry key =>
      simp only [Step.lexemes]
      split_ifs with hkey
      · have hname := isNameRest_of_isIdentifier hkey
        have hne : key ≠ "" := by
          rintro rfl
          cases hkey
        obtain ⟨htake, hdrop⟩ := takeWhile_map_append isName .code hname hrest
        rw [List.cons_append, readStep, htake, hdrop]
        simp [Function.comp_def, hne]
      · have hchars : ∀ c ∈ key.toList, (char? (.char c)).isSome = true := fun _ _ => rfl
        have hclose : ∀ l ∈ (Lexeme.closeQuote :: .code ']' :: rest).head?,
            (char? l).isSome = false := by
          simp [char?]
        obtain ⟨htake, hdrop⟩ :=
          takeWhile_map_append (fun l => (char? l).isSome) .char hchars hclose
        simp only [List.append_assoc, List.cons_append, List.nil_append, literalLexemes, readStep,
          htake, hdrop]
        simp [Function.comp_def]
  | element i =>
      rw [Step.lexemes, readStep_bracketed fun c => word_of_mem_toDigits, bracketStep_digits]
  | computed e =>
      rw [Step.lexemes, readStep_bracketed h.2, bracketStep, if_neg (by simp [h.1])]
      simp

theorem head?_lexemes (step : Step) :
    step.lexemes.head? = some (.code '.') ∨ step.lexemes.head? = some (.code '[') := by
  cases step with
  | entry key =>
      simp only [Step.lexemes]
      split_ifs
      · exact Or.inl rfl
      · exact Or.inr rfl
  | element i => exact Or.inr rfl
  | computed e => exact Or.inr rfl

theorem isName_head?_flatMap (steps : List Step) :
    ∀ l ∈ (steps.flatMap Step.lexemes).head?, isName l = false := by
  cases steps with
  | nil => simp
  | cons step rest =>
      intro l hl
      rw [List.flatMap_cons, List.head?_append] at hl
      rcases head?_lexemes step with h | h
      all_goals
        rw [h] at hl
        cases hl
        decide

theorem readSteps_flatMap {fuel : Nat} {steps : List Step} (h : ∀ step ∈ steps, step.Plain)
    (hfuel : steps.length ≤ fuel) : readSteps fuel (steps.flatMap Step.lexemes) = some steps := by
  induction steps generalizing fuel with
  | nil =>
      cases fuel <;> rfl
  | cons step rest ih =>
      cases fuel with
      | zero => simp at hfuel
      | succ fuel =>
          have hstep := readStep_lexemes (h step List.mem_cons_self) (isName_head?_flatMap rest)
          have hrest := ih (fun s hs => h s (List.mem_cons_of_mem _ hs))
            (Nat.le_of_succ_le_succ hfuel)
          rw [List.flatMap_cons, readSteps, hstep]
          · simp [hrest]
          · intro hnil
            rw [hnil] at hstep
            cases hstep

theorem length_le_flatMap (steps : List Step) :
    steps.length ≤ (steps.flatMap Step.lexemes).length := by
  induction steps with
  | nil => simp
  | cons step rest ih =>
      have hne : step.lexemes ≠ [] := by
        intro hnil
        rcases head?_lexemes step with h | h <;> simp [hnil] at h
      have := List.length_pos_of_ne_nil hne
      simp only [List.length_cons, List.flatMap_cons, List.length_append]
      omega

theorem lexemes_writeAll {steps : List Step} (h : ∀ step ∈ steps, step.Plain) :
    Lexemes.lexemes (writeAll steps) = steps.flatMap Step.lexemes := by
  unfold Lexemes.lexemes
  induction steps with
  | nil => rfl
  | cons step rest ih =>
      obtain ⟨hlex, hrun⟩ := lexFrom_write (h step List.mem_cons_self)
      have hcons :
          (writeAll (step :: rest)).toList = step.write.toList ++ (writeAll rest).toList := by
        simp [writeAll, String.join_cons]
      rw [hcons, lexFrom_append, hrun, hlex, ih fun s hs => h s (List.mem_cons_of_mem _ hs),
        List.flatMap_cons]

theorem steps?_writeAll {steps : List Step} (h : ∀ step ∈ steps, step.Plain) :
    steps? (Lexemes.lexemes (writeAll steps)) = some steps := by
  rw [lexemes_writeAll h]
  exact readSteps_flatMap h (length_le_flatMap steps)

end StackExport.Proofs.Traversal
