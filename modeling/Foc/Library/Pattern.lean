import Mathlib

/-!
Patterns as a backtracking engine matches them: greedy, the first alternative first, without
anchors or captures. Replacing every match by a mark from left to right, and when what comes out
holds no match of that pattern or of another.
-/
namespace Foc.Library

inductive Pattern (Symbol : Type) where
  | one (test : Symbol → Bool)
  | seq (first second : Pattern Symbol)
  | alt (first second : Pattern Symbol)
  /-- As many symbols as there are, and no more than `most`. -/
  | upTo (most : Nat) (test : Symbol → Bool)
  | many (test : Symbol → Bool)

namespace Pattern

variable {Symbol : Type}

/-! ## The engine -/

def restsUpTo (test : Symbol → Bool) : Nat → List Symbol → List (List Symbol)
  | 0, text => [text]
  | _ + 1, [] => [[]]
  | most + 1, symbol :: more =>
      if test symbol then restsUpTo test most more ++ [symbol :: more] else [symbol :: more]

/-- What each match at the text's beginning leaves of it, in the order they are tried. -/
def rests : Pattern Symbol → List Symbol → List (List Symbol)
  | one _, [] => []
  | one test, symbol :: more => if test symbol then [more] else []
  | seq first second, text => (rests first text).flatMap (rests second)
  | alt first second, text => rests first text ++ rests second text
  | upTo most test, text => restsUpTo test most text
  | many test, text => restsUpTo test text.length text

/-- The length of the match at the text's beginning. -/
def matchLength (pattern : Pattern Symbol) (text : List Symbol) : Option Nat :=
  (rests pattern text).head?.map fun rest => text.length - rest.length

/-- `skip` symbols belong to the last match. An empty match is none. -/
def replaceFrom (pattern : Pattern Symbol) (mark : List Symbol) : Nat → List Symbol → List Symbol
  | _, [] => []
  | skip + 1, _ :: more => replaceFrom pattern mark skip more
  | 0, symbol :: more =>
      match pattern.matchLength (symbol :: more) with
      | some (length + 1) => mark ++ replaceFrom pattern mark length more
      | _ => symbol :: replaceFrom pattern mark 0 more

def replace (pattern : Pattern Symbol) (mark text : List Symbol) : List Symbol :=
  replaceFrom pattern mark 0 text

/-! ## The words of a pattern -/

def Takes : Pattern Symbol → List Symbol → Prop
  | one test, word => ∃ symbol, word = [symbol] ∧ test symbol
  | seq first second, word => ∃ one two, word = one ++ two ∧ first.Takes one ∧ second.Takes two
  | alt first second, word => first.Takes word ∨ second.Takes word
  | upTo most test, word => word.length ≤ most ∧ ∀ symbol ∈ word, test symbol
  | many test, word => ∀ symbol ∈ word, test symbol

/-- A word of the pattern stands somewhere in the text. -/
def Contains (pattern : Pattern Symbol) (text : List Symbol) : Prop :=
  ∃ word, pattern.Takes word ∧ word <:+: text

/-- Every symbol of a word is one of these. -/
def Over (alphabet : Symbol → Prop) : Pattern Symbol → Prop
  | one test => ∀ symbol, test symbol → alphabet symbol
  | seq first second => first.Over alphabet ∧ second.Over alphabet
  | alt first second => first.Over alphabet ∧ second.Over alphabet
  | upTo _ test => ∀ symbol, test symbol → alphabet symbol
  | many test => ∀ symbol, test symbol → alphabet symbol

/-- No word is empty. -/
def Proper : Pattern Symbol → Prop
  | one _ => True
  | seq first second => first.Proper ∨ second.Proper
  | alt first second => first.Proper ∧ second.Proper
  | upTo _ _ => False
  | many _ => False

variable {pattern : Pattern Symbol} {alphabet : Symbol → Prop} {symbol : Symbol}
  {text rest word mark before after : List Symbol}

theorem mem_upTo {test : Symbol → Bool} {most : Nat} :
    rest ∈ restsUpTo test most text ↔
      ∃ word, text = word ++ rest ∧ word.length ≤ most ∧ ∀ symbol ∈ word, test symbol := by
  induction most generalizing text with
  | zero =>
    rw [restsUpTo, List.mem_singleton]
    constructor
    · rintro rfl
      exact ⟨[], rfl, Nat.le_refl 0, by simp⟩
    · rintro ⟨word, rfl, short, -⟩
      have empty : word = [] := List.length_eq_zero_iff.mp (Nat.le_zero.mp short)
      rw [empty]
      rfl
  | succ most ih =>
    cases text with
    | nil =>
      rw [restsUpTo, List.mem_singleton]
      constructor
      · rintro rfl
        exact ⟨[], rfl, Nat.zero_le _, by simp⟩
      · rintro ⟨word, is, -⟩
        exact (List.append_eq_nil_iff.mp is.symm).2
    | cons first more =>
      have split : (∃ word, first :: more = word ++ rest ∧ word.length ≤ most + 1 ∧
          ∀ symbol ∈ word, test symbol) ↔
          (test first ∧ ∃ word, more = word ++ rest ∧ word.length ≤ most ∧
            ∀ symbol ∈ word, test symbol) ∨ rest = first :: more := by
        constructor
        · rintro ⟨word, is, short, all⟩
          cases word with
          | nil => exact .inr is.symm
          | cons head word =>
            rw [List.cons_append, List.cons.injEq] at is
            obtain ⟨here, onward⟩ := List.forall_mem_cons.mp all
            rw [is.1]
            exact .inl ⟨here, word, is.2, Nat.le_of_succ_le_succ short, onward⟩
        · rintro (⟨here, word, rfl, short, all⟩ | rfl)
          · exact ⟨first :: word, rfl, Nat.succ_le_succ short, List.forall_mem_cons.mpr ⟨here, all⟩⟩
          · exact ⟨[], rfl, Nat.zero_le _, by simp⟩
      rw [split, restsUpTo, ← ih]
      by_cases here : test first
      · simp [here]
      · simp [here]

/-- The engine finds the words the text begins with, and no others. -/
theorem mem_rests :
    rest ∈ rests pattern text ↔ ∃ word, text = word ++ rest ∧ pattern.Takes word := by
  induction pattern generalizing text rest with
  | one test =>
    cases text with
    | nil => simp [rests, Takes]
    | cons first more =>
      constructor
      · intro member
        rw [rests] at member
        split at member
        · rename_i here
          rw [List.mem_singleton] at member
          exact ⟨[first], by rw [member]; rfl, first, rfl, here⟩
        · cases member
      · rintro ⟨word, is, symbol, rfl, here⟩
        rw [List.singleton_append, List.cons.injEq] at is
        rw [rests, is.1, if_pos here, is.2]
        exact List.mem_singleton_self _
  | seq first second one two =>
    rw [rests, List.mem_flatMap]
    constructor
    · rintro ⟨middle, member, later⟩
      obtain ⟨word, rfl, takes⟩ := one.mp member
      obtain ⟨other, rfl, onward⟩ := two.mp later
      exact ⟨word ++ other, (List.append_assoc ..).symm, word, other, rfl, takes, onward⟩
    · rintro ⟨_, is, word, other, rfl, takes, onward⟩
      rw [List.append_assoc] at is
      exact ⟨other ++ rest, one.mpr ⟨word, is, takes⟩, two.mpr ⟨other, rfl, onward⟩⟩
  | alt first second one two =>
    rw [rests, List.mem_append, one, two, ← exists_or]
    simp only [Takes, and_or_left]
  | upTo most test => exact mem_upTo
  | many test =>
    rw [rests, mem_upTo]
    constructor
    · rintro ⟨word, is, -, all⟩
      exact ⟨word, is, all⟩
    · rintro ⟨word, is, all⟩
      refine ⟨word, is, ?_, all⟩
      rw [is, List.length_append]
      exact Nat.le_add_right _ _

theorem takes_over (over_ : pattern.Over alphabet) (takes : pattern.Takes word) :
    ∀ symbol ∈ word, alphabet symbol := by
  induction pattern generalizing word with
  | one test =>
    obtain ⟨symbol, rfl, here⟩ := takes
    intro other member
    rw [List.mem_singleton.mp member]
    exact over_ symbol here
  | seq first second one two =>
    obtain ⟨word, other, rfl, left, right⟩ := takes
    intro symbol member
    rcases List.mem_append.mp member with early | late
    · exact one over_.1 left symbol early
    · exact two over_.2 right symbol late
  | alt first second one two =>
    rcases takes with left | right
    · exact one over_.1 left
    · exact two over_.2 right
  | upTo most test => exact fun symbol member => over_ symbol (takes.2 symbol member)
  | many test => exact fun symbol member => over_ symbol (takes symbol member)

theorem takes_proper (proper : pattern.Proper) (takes : pattern.Takes word) : word ≠ [] := by
  induction pattern generalizing word with
  | one test =>
    obtain ⟨symbol, rfl, -⟩ := takes
    exact List.cons_ne_nil _ _
  | seq first second one two =>
    obtain ⟨word, other, rfl, left, right⟩ := takes
    rw [Ne, List.append_eq_nil_iff]
    rintro ⟨none_, empty⟩
    rcases proper with head | tail
    · exact one head left none_
    · exact two tail right empty
  | alt first second one two =>
    rcases takes with left | right
    · exact one proper.1 left
    · exact two proper.2 right
  | upTo most test => exact proper.elim
  | many test => exact proper.elim

/-! ## Where words stand -/

theorem Contains.within (contains : pattern.Contains text) {whole : List Symbol}
    (part : text <:+: whole) : pattern.Contains whole := by
  obtain ⟨word, takes, there⟩ := contains
  exact ⟨word, takes, there.trans part⟩

/-- A symbol that no word has parts the text. -/
theorem contains_border (over_ : pattern.Over alphabet) (outside : ¬ alphabet symbol)
    (contains : pattern.Contains (before ++ symbol :: after)) :
    pattern.Contains before ∨ pattern.Contains after := by
  obtain ⟨word, takes, front, back, is⟩ := contains
  have apart : symbol ∉ word := fun member => outside (takes_over over_ takes symbol member)
  rcases List.append_eq_append_iff.mp is with ⟨rest, early, -⟩ | ⟨rest, early, late⟩
  · left
    refine ⟨word, takes, front, rest, ?_⟩
    rw [early]
  · cases rest with
    | nil =>
      left
      rw [List.append_nil] at early
      exact ⟨word, takes, front, [], by rw [List.append_nil, early]⟩
    | cons head rest =>
      rw [List.cons_append, List.cons.injEq] at late
      rcases List.append_eq_append_iff.mp early with ⟨middle, -, inside⟩ | ⟨middle, behind, inside⟩
      · have member : symbol ∈ word := by
          rw [inside, late.1]
          simp
        exact absurd member apart
      · cases middle with
        | nil =>
          rw [List.nil_append] at inside
          have member : symbol ∈ word := by
            rw [← inside, late.1]
            simp
          exact absurd member apart
        | cons other middle =>
          rw [List.cons_append, List.cons.injEq] at inside
          right
          refine ⟨word, takes, middle, back, ?_⟩
          rw [late.2, inside.2]

/-! ## Replacing -/

theorem replace_skip (skip : Nat) :
    replaceFrom pattern mark skip text = replaceFrom pattern mark 0 (text.drop skip) := by
  induction skip generalizing text with
  | zero => rfl
  | succ skip ih =>
    cases text with
    | nil => simp [replaceFrom]
    | cons first more =>
      rw [replaceFrom, List.drop_succ_cons]
      exact ih

theorem replace_none (none_ : pattern.matchLength (symbol :: text) = none) :
    replace pattern mark (symbol :: text) = symbol :: replace pattern mark text := by
  rw [replace, replaceFrom, none_]
  rfl

theorem replace_some {length : Nat}
    (found : pattern.matchLength (symbol :: text) = some (length + 1)) :
    replace pattern mark (symbol :: text) = mark ++ replace pattern mark (text.drop length) := by
  rw [replace, replaceFrom, found, replace, ← replace_skip]

theorem match_none (none_ : pattern.matchLength text = none) (takes : pattern.Takes word) :
    ¬ word <+: text := by
  rintro ⟨rest, is⟩
  have member : rest ∈ rests pattern text := mem_rests.mpr ⟨word, is.symm, takes⟩
  rw [matchLength, Option.map_eq_none_iff, List.head?_eq_none_iff] at none_
  rw [none_] at member
  cases member

theorem match_some {length : Nat} (found : pattern.matchLength text = some length) :
    pattern.Takes (text.take length) ∧ length ≤ text.length := by
  obtain ⟨rest, first, rfl⟩ := Option.map_eq_some_iff.mp found
  obtain ⟨word, rfl, takes⟩ := mem_rests.mp (List.mem_of_head? first)
  have size : (word ++ rest).length - rest.length = word.length := by simp
  rw [size, List.take_left]
  exact ⟨takes, by simp⟩

/-- How replacing begins: there is no word in the text, or the first found goes. -/
inductive Step (pattern : Pattern Symbol) (mark : List Symbol) : List Symbol → Prop where
  | none (text : List Symbol) (clean : ¬ pattern.Contains text)
      (same : replace pattern mark text = text) : Step pattern mark text
  | found (before word after : List Symbol) (clean : ¬ pattern.Contains before)
      (takes : pattern.Takes word) (empty : word ≠ [])
      (goes : replace pattern mark (before ++ word ++ after) =
        before ++ mark ++ replace pattern mark after) :
      Step pattern mark (before ++ word ++ after)

theorem contains_cons (contains : pattern.Contains (symbol :: text)) :
    (∃ word, pattern.Takes word ∧ word <+: symbol :: text) ∨ pattern.Contains text := by
  obtain ⟨word, takes, there⟩ := contains
  rcases List.infix_cons_iff.mp there with first | later
  · exact .inl ⟨word, takes, first⟩
  · exact .inr ⟨word, takes, later⟩

theorem contains_nil (proper : pattern.Proper) : ¬ pattern.Contains [] := by
  rintro ⟨word, takes, there⟩
  exact takes_proper proper takes (List.infix_nil.mp there)

theorem replace_step (proper : pattern.Proper) (mark text : List Symbol) :
    Step pattern mark text := by
  induction text with
  | nil => exact .none [] (contains_nil proper) rfl
  | cons first more ih =>
    cases found : pattern.matchLength (first :: more) with
    | some length =>
      obtain ⟨takes, within⟩ := match_some found
      cases length with
      | zero => exact absurd rfl (takes_proper proper takes)
      | succ length =>
        have goes := @replace_some _ _ _ _ mark _ found
        have split : first :: more =
            [] ++ (first :: more).take (length + 1) ++ more.drop length := by
          simp
        rw [split]
        refine .found _ _ _ (contains_nil proper) takes (takes_proper proper takes) ?_
        rw [← split, goes]
        rfl
    | none =>
      have goes := @replace_none _ _ _ _ mark found
      cases ih with
      | none _ clean same =>
        refine .none _ ?_ (by rw [goes, same])
        intro contains
        rcases contains_cons contains with ⟨word, takes, there⟩ | later
        · exact match_none found takes there
        · exact clean later
      | found before word after clean takes empty onward =>
        refine .found (first :: before) word after ?_ takes empty ?_
        · intro contains
          rcases contains_cons contains with ⟨other, fits, there⟩ | later
          · refine match_none found fits (there.trans ?_)
            exact ⟨word ++ after, by simp⟩
          · exact clean later
        · rw [List.cons_append, List.cons_append, goes, onward]
          rfl

/-- What holds no word is left as it is. -/
theorem replace_clean (proper : pattern.Proper) (clean : ¬ pattern.Contains text) :
    replace pattern mark text = text := by
  cases replace_step proper mark text with
  | none _ _ same => exact same
  | found before word after _ takes _ _ =>
    exact absurd ⟨word, takes, before, after, rfl⟩ clean

/-- A mark whose ends are in no word of a pattern, and that holds none. -/
structure Sealed (pattern : Pattern Symbol) (mark : List Symbol) : Prop where
  outside : ∃ alphabet : Symbol → Prop, pattern.Over alphabet ∧
    ∃ opens closes inner, mark = opens :: inner ++ [closes] ∧
      ¬ alphabet opens ∧ ¬ alphabet closes ∧ ¬ pattern.Contains inner

theorem Sealed.parts (hides : Sealed pattern mark) (left : ¬ pattern.Contains before)
    (right : ¬ pattern.Contains after) : ¬ pattern.Contains (before ++ mark ++ after) := by
  obtain ⟨alphabet, over_, opens, closes, inner, rfl, one, two, clean⟩ := hides.outside
  intro contains
  have first : pattern.Contains (before ++ opens :: (inner ++ [closes] ++ after)) := by
    simpa using contains
  rcases contains_border over_ one first with early | late
  · exact left early
  · have second : pattern.Contains (inner ++ closes :: after) := by simpa using late
    rcases contains_border over_ two second with inside | behind
    · exact clean inside
    · exact right behind

/-- Where nothing a match leaves holds a word of another pattern, all that comes out holds none. -/
theorem replace_hides {other : Pattern Symbol} (proper : pattern.Proper)
    (hides : Sealed other mark) (text : List Symbol)
    (left : ∀ part, part <:+: text → ¬ pattern.Contains part → ¬ other.Contains part) :
    ¬ other.Contains (replace pattern mark text) := by
  induction size : text.length using Nat.strong_induction_on generalizing text with
  | _ length ih =>
    cases replace_step proper mark text with
    | none _ clean same =>
      rw [same]
      exact left text (List.infix_refl _) clean
    | found before word after clean takes empty goes =>
      rw [goes]
      have shorter : after.length < length := by
        have some_ := List.length_pos_iff.mpr empty
        rw [← size, List.length_append, List.length_append]
        omega
      have rest := ih after.length shorter after (fun part inside =>
        left part (inside.trans ⟨before ++ word, [], by simp⟩)) rfl
      exact hides.parts (left before ⟨[], word ++ after, by simp⟩ clean) rest

/-- Replacing leaves no word of its own pattern. -/
theorem replace_complete (proper : pattern.Proper) (hides : Sealed pattern mark)
    (text : List Symbol) : ¬ pattern.Contains (replace pattern mark text) :=
  replace_hides proper hides text fun _ _ clean => clean

/-- Replacing brings no word of another pattern. -/
theorem replace_keeps {other : Pattern Symbol} (proper : pattern.Proper)
    (hides : Sealed other mark) (clean : ¬ other.Contains text) :
    ¬ other.Contains (replace pattern mark text) := by
  refine replace_hides proper hides text ?_
  intro part inside _ contains
  exact clean (contains.within inside)

/-- A symbol of no word and not of the mark stays as often as it was there. -/
theorem replace_count [DecidableEq Symbol] (proper : pattern.Proper) (over_ : pattern.Over alphabet)
    (outside : ¬ alphabet symbol) (unmarked : symbol ∉ mark) (text : List Symbol) :
    (replace pattern mark text).count symbol = text.count symbol := by
  induction size : text.length using Nat.strong_induction_on generalizing text with
  | _ length ih =>
    cases replace_step proper mark text with
    | none _ _ same => rw [same]
    | found before word after _ takes empty goes =>
      have apart : symbol ∉ word := fun member => outside (takes_over over_ takes symbol member)
      have shorter : after.length < length := by
        have some_ := List.length_pos_iff.mpr empty
        rw [← size, List.length_append, List.length_append]
        omega
      rw [goes, List.count_append, List.count_append, List.count_append, List.count_append,
        ih after.length shorter after rfl, List.count_eq_zero.mpr apart,
        List.count_eq_zero.mpr unmarked]

end Pattern

end Foc.Library
