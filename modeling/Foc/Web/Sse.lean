import Foc.Library.EventStream

/-!
The parser of the live stream (`web-app/src/lib/live/sse.ts`): a text arrives in chunks, and
the parser carries an unfinished line, whether the last chunk ended on a CR, and an event
half built. An empty chunk forgets the CR, so a LF after it ends a line once more.
-/
namespace Foc.Web.Sse
open Library Library.Utf16 Library.EventStream

/-- Its `event` is the type that the format gives it. -/
abbrev SseEvent := EventStream.Event

/-- What the parser keeps between chunks, and the events it has passed on. -/
structure SseParser where
  pending : Units
  endedOnCR : Bool
  name : Units
  data : List Units
  sent : List SseEvent

namespace SseParser

def initial : SseParser where
  pending := []
  endedOnCR := false
  name := []
  data := []
  sent := []

/-- A text from its first colon on, less a space: `slice` and `replace`. -/
def fieldOf (text : Units) : Units × Units :=
  match text.idxOf? colon with
  | none => (text, [])
  | some index =>
      let value := text.drop (index + 1)
      (text.take index, if value.head? = some space then value.drop 1 else value)

def line (parser : SseParser) (text : Units) : SseParser :=
  if text = [] then
    { parser with
      name := []
      data := []
      sent :=
        if parser.data.length > 0 then
          parser.sent ++ [{ type := if parser.name = [] then message else parser.name
                            data := [lf].intercalate parser.data }]
        else parser.sent }
  else if text.head? = some colon then parser
  else
    let (field, value) := fieldOf text
    if field = eventField then { parser with name := value }
    else if field = dataField then { parser with data := parser.data ++ [value] }
    else parser

/-- `split(/\r\n|\r|\n/)`, of a text whose first line has begun. -/
def splitFrom (line : Units) : Units → List Units
  | [] => [line]
  | [unit] => if unit = cr ∨ unit = lf then [line, []] else [line ++ [unit]]
  | first :: second :: rest =>
      if first = cr ∧ second = lf then line :: splitFrom [] rest
      else if first = cr ∨ first = lf then line :: splitFrom [] (second :: rest)
      else splitFrom (line ++ [first]) (second :: rest)

def split (text : Units) : List Units := splitFrom [] text

/-- One chunk: the lines it ends, after what was pending. -/
def feed (parser : SseParser) (chunk : Units) : SseParser :=
  let text := if parser.endedOnCR ∧ chunk.head? = some lf then chunk.drop 1 else chunk
  let lines := split (parser.pending ++ text)
  lines.dropLast.foldl line
    { parser with
      endedOnCR := decide (text.getLast? = some cr)
      pending := lines.getLast?.getD [] }

end SseParser

open SseParser

/-- The events of a text that arrives in these chunks. -/
def parse (chunks : List Units) : List SseEvent := (chunks.foldl feed initial).sent

/-! ## Lines as the parser reads them -/

/-- The text, each unit with whether an empty chunk came right before it. -/
def marked (gap : Bool) : List Units → List (UInt16 × Bool)
  | [] => []
  | [] :: rest => marked true rest
  | (unit :: more) :: rest => (unit, gap) :: (more.map (·, false) ++ marked false rest)

/-- The lines of a marked text: the end of a line is read twice when it is a CRLF with an
empty chunk between its two units. -/
def endedFrom (line : Units) : List (UInt16 × Bool) → List Ended
  | [] => []
  | [unit] => if unit.1 = cr ∨ unit.1 = lf then [⟨line, false⟩] else []
  | first :: second :: rest =>
      if first.1 = cr ∧ second.1 = lf then ⟨line, second.2⟩ :: endedFrom [] rest
      else if first.1 = cr ∨ first.1 = lf then ⟨line, false⟩ :: endedFrom [] (second :: rest)
      else endedFrom (line ++ [first.1]) (second :: rest)

/-- No CRLF with an empty chunk in it cuts an event: of the pieces that such line ends cut
its lines into, one at most holds data, and that one names the event. -/
def Uncut (chunks : List Units) : Prop := Spared (endedFrom [] (marked false chunks))

theorem marked_text (gap : Bool) (chunks : List Units) :
    (marked gap chunks).map Prod.fst = chunks.flatten := by
  induction gap, chunks using marked.induct with
  | case1 => rfl
  | case2 gap rest ih => simpa [marked] using ih
  | case3 gap unit more rest ih =>
      have units : more.map (Prod.fst ∘ fun unit => (unit, false)) = more := by
        rw [show (Prod.fst ∘ fun unit : UInt16 => (unit, false)) = id from rfl, List.map_id]
      simp [marked, ih, units]

theorem ended_lines (line : Units) (text : List (UInt16 × Bool)) :
    (endedFrom line text).map (·.line) = linesFrom line (text.map Prod.fst) := by
  induction line, text using endedFrom.induct with
  | case1 line => rfl
  | case2 line unit single => simp [endedFrom, linesFrom, single]
  | case3 line unit solid => simp [endedFrom, linesFrom, solid]
  | case4 line first second rest pair ih => simp [endedFrom, linesFrom, pair, ih]
  | case5 line first second rest unpaired single ih =>
      rw [List.map_cons, List.map_cons, endedFrom, linesFrom, if_neg unpaired, if_neg unpaired,
        if_pos single, if_pos single, List.map_cons, ih]
      rfl
  | case6 line first second rest unpaired solid ih =>
      rw [List.map_cons, List.map_cons, endedFrom, linesFrom, if_neg unpaired, if_neg unpaired,
        if_neg solid, if_neg solid, ih]
      rfl

/-! ## Lines and events -/

/-- What stands before the first colon and after it, found by the colon's index. -/
theorem colon_found (text : Units) : (text.idxOf? colon = none ∧ text.takeWhile (· ≠ colon) = text ∧
      text.dropWhile (· ≠ colon) = []) ∨
    ∃ index, text.idxOf? colon = some index ∧ text.takeWhile (· ≠ colon) = text.take index ∧
      text.dropWhile (· ≠ colon) = text.drop index := by
  induction text with
  | nil => exact .inl ⟨rfl, rfl, rfl⟩
  | cons unit rest ih =>
      by_cases first : unit = colon
      · exact .inr ⟨0, by simp [List.idxOf?_cons, first], by simp [first], by simp [first]⟩
      · rcases ih with ⟨none, taken, dropped⟩ | ⟨index, found, taken, dropped⟩
        · left
          simp only [ne_eq, decide_not] at taken dropped
          simp [List.idxOf?_cons, first, none, taken, dropped]
        · right
          simp only [ne_eq, decide_not] at taken dropped
          exact ⟨index + 1, by simp [List.idxOf?_cons, first, found], by simp [first, taken],
            by simp [first, dropped]⟩

theorem field_of (text : Units) : fieldOf text = field text := by
  rw [fieldOf, field]
  rcases colon_found text with ⟨none, taken, dropped⟩ | ⟨index, found, taken, dropped⟩
  · rw [none, taken, dropped]
    rfl
  · rw [found, taken, dropped, List.drop_drop]

/-- The buffers of the format that the parser's array of data stands for. -/
def SseParser.buffers (parser : SseParser) : Buffers :=
  { type := parser.name, data := parser.data.flatMap (· ++ [lf]) }

theorem joined_data (data : List Units) (some_ : data ≠ []) :
    (data.flatMap (· ++ [lf])).dropLast = [lf].intercalate data := by
  induction data with
  | nil => exact absurd rfl some_
  | cons first rest ih =>
      cases rest with
      | nil => simp [List.intercalate]
      | cons second rest =>
          have more := ih (by simp)
          rw [List.flatMap_cons, List.dropLast_append_of_ne_nil (by simp), more]
          simp [List.intercalate]

/-- A line does to the parser what it does to the format's buffers. -/
theorem line_blank (parser : SseParser) : parser.line [] =
    { parser with name := [], data := [], sent := parser.sent ++ parser.buffers.dispatch.toList } := by
  rw [line, if_pos rfl, Buffers.dispatch, buffers]
  cases data : parser.data with
  | nil => simp
  | cons first rest =>
      have joins := joined_data (first :: rest) (by simp)
      have some_ : (first :: rest).flatMap (· ++ [lf]) ≠ [] := by simp
      simp only [joins, some_, if_false]
      simp

theorem line_full {text : Units} (full : text ≠ []) (parser : SseParser) :
    (parser.line text).buffers = parser.buffers.add text ∧ (parser.line text).sent = parser.sent := by
  rw [line, if_neg full, Buffers.add, field_of]
  by_cases comment : text.head? = some colon
  · simp [comment]
  · by_cases naming : (field text).1 = eventField
    · simp [comment, naming, buffers]
    · by_cases dating : (field text).1 = dataField
      · have other : ¬ dataField = eventField := by decide
        simp [comment, dating, other, buffers]
      · simp [comment, naming, dating]

theorem lines_sent (lines : List Units) (parser : SseParser) :
    (lines.foldl line parser).sent = parser.sent ++ eventsFrom parser.buffers lines := by
  induction lines generalizing parser with
  | nil => simp [eventsFrom]
  | cons text rest ih =>
      rw [List.foldl_cons, ih, eventsFrom]
      by_cases blank : text = []
      · subst blank
        rw [line_blank, if_pos rfl, List.append_assoc]
        rfl
      · obtain ⟨added, kept⟩ := line_full blank parser
        rw [if_neg blank, added, kept]

/-! ## One unit at a time -/

/-- What one unit does: a LF right after a CR is of the line that the CR has ended. -/
def SseParser.step (parser : SseParser) (unit : UInt16) : SseParser :=
  if parser.endedOnCR = true ∧ unit = lf then { parser with endedOnCR := false }
  else if unit = cr ∨ unit = lf then
    { parser.line parser.pending with pending := [], endedOnCR := decide (unit = cr) }
  else { parser with pending := parser.pending ++ [unit], endedOnCR := false }

/-- The parser with its place in the text set. -/
def SseParser.at_ (parser : SseParser) (pending : Units) (endedOnCR : Bool) : SseParser :=
  { parser with pending, endedOnCR }

theorem line_at (parser : SseParser) (pending text : Units) (endedOnCR : Bool) :
    (parser.at_ pending endedOnCR).line text = (parser.line text).at_ pending endedOnCR := by
  simp only [line, at_]
  split
  · rfl
  · split
    · rfl
    · split
      · rfl
      · split <;> rfl

theorem lines_at (lines : List Units) (parser : SseParser) (pending : Units) (endedOnCR : Bool) :
    lines.foldl line (parser.at_ pending endedOnCR) =
      (lines.foldl line parser).at_ pending endedOnCR := by
  induction lines generalizing parser with
  | nil => rfl
  | cons text rest ih => rw [List.foldl_cons, List.foldl_cons, line_at, ih]

theorem split_some (line text : Units) : splitFrom line text ≠ [] := by
  induction line, text using splitFrom.induct with
  | case1 line => simp [splitFrom]
  | case2 line unit single => simp [splitFrom, single]
  | case3 line unit solid => simp [splitFrom, solid]
  | case4 line first second rest pair ih => simp [splitFrom, pair]
  | case5 line first second rest unpaired single ih =>
      rw [splitFrom, if_neg unpaired, if_pos single]
      simp
  | case6 line first second rest unpaired solid ih =>
      rw [splitFrom, if_neg unpaired, if_neg solid]
      exact ih

theorem split_plain {units : Units} (plain : Plain units) (line rest : Units) :
    splitFrom line (units ++ rest) = splitFrom (line ++ units) rest := by
  induction units generalizing line with
  | nil => simp
  | cons unit units ih =>
      obtain ⟨uncr, unlf⟩ := plain
      rw [List.mem_cons, not_or] at uncr unlf
      have solid : unit ≠ cr ∧ unit ≠ lf := ⟨Ne.symm uncr.1, Ne.symm unlf.1⟩
      have moves : ∀ others, splitFrom line (unit :: others) = splitFrom (line ++ [unit]) others := by
        intro others
        cases others with
        | nil => simp [splitFrom, solid]
        | cons second others => simp [splitFrom, solid]
      rw [List.cons_append, moves, ih ⟨uncr.2, unlf.2⟩]
      simp

/-- Reading on after a line end, or where no LF comes next, the parser need not know of
a CR before. -/
theorem step_fresh {unit : UInt16} (other : unit ≠ lf) (parser : SseParser) (endedOnCR : Bool) :
    (parser.at_ parser.pending endedOnCR).step unit = (parser.at_ parser.pending false).step unit := by
  simp only [step, other, and_false, if_false, or_false, at_]
  split
  · have same := line_at parser parser.pending parser.pending endedOnCR
    have fresh := line_at parser parser.pending parser.pending false
    simp only [at_] at same fresh
    rw [same, fresh]
  · rfl

/-- A text read at once, after a line has begun. -/
def SseParser.absorb (parser : SseParser) (text : Units) : SseParser :=
  ((splitFrom parser.pending text).dropLast.foldl line parser).at_
    ((splitFrom parser.pending text).getLast?.getD []) (decide (text.getLast? = some cr))

theorem at_at (parser : SseParser) (first second : Units) (one other : Bool) :
    (parser.at_ first one).at_ second other = parser.at_ second other := rfl

theorem step_ends {unit : UInt16} (single : unit = cr ∨ unit = lf) {parser : SseParser}
    (fresh : parser.endedOnCR = false) :
    parser.step unit = (parser.line parser.pending).at_ [] (decide (unit = cr)) := by
  simp [step, fresh, single, at_]

theorem absorb_ends {line text more : Units} {parser : SseParser} (pending : parser.pending = line)
    (splits : splitFrom line text = line :: splitFrom [] more)
    (last : text.getLast? = some cr ↔ more.getLast? = some cr) :
    parser.absorb text = ((parser.line line).at_ [] false).absorb more := by
  obtain ⟨first, others, found⟩ := List.exists_cons_of_ne_nil (split_some [] more)
  have ended : (line :: splitFrom [] more).dropLast = line :: (splitFrom [] more).dropLast := by
    rw [found]
    rfl
  have left : (line :: splitFrom [] more).getLast? = (splitFrom [] more).getLast? := by
    rw [found]
    rfl
  have fresh : ((parser.line line).at_ [] false).pending = [] := rfl
  rw [absorb, absorb, pending, splits, ended, left, List.foldl_cons, fresh, lines_at, at_at]
  simp only [last]

theorem absorb_step (line text : Units) : ∀ parser : SseParser, parser.pending = line →
    parser.endedOnCR = false → text.foldl step parser = parser.absorb text := by
  induction line, text using splitFrom.induct with
  | case1 line =>
      intro parser pending fresh
      simp [absorb, splitFrom, at_, ← fresh]
  | case2 line unit single =>
      intro parser pending fresh
      rw [List.foldl_cons, List.foldl_nil, step_ends single fresh, absorb, splitFrom, if_pos single]
      simp
  | case3 line unit solid =>
      intro parser pending fresh
      rw [List.foldl_cons, List.foldl_nil, absorb, pending, splitFrom, if_neg solid]
      rw [not_or] at solid
      simp [step, fresh, solid, at_, pending]
  | case4 line first second rest pair ih =>
      intro parser pending fresh
      obtain ⟨rfl, rfl⟩ := pair
      have ended : (parser.step cr).step lf = (parser.line line).at_ [] false := by
        rw [step_ends (.inl rfl) fresh, pending]
        simp [step, at_]
      have last : (cr :: lf :: rest).getLast? = some cr ↔ rest.getLast? = some cr := by
        cases rest with
        | nil => decide
        | cons third rest => simp [List.getLast?_cons_cons]
      have splits : splitFrom line (cr :: lf :: rest) = line :: splitFrom [] rest := by
        simp [splitFrom]
      rw [List.foldl_cons, List.foldl_cons, ended, ih _ rfl rfl, absorb_ends pending splits last]
  | case5 line first second rest unpaired single ih =>
      intro parser pending fresh
      have splits : splitFrom line (first :: second :: rest) =
          line :: splitFrom [] (second :: rest) := by
        rw [splitFrom, if_neg unpaired, if_pos single]
      have last : (first :: second :: rest).getLast? = some cr ↔
          (second :: rest).getLast? = some cr := by
        rw [List.getLast?_cons_cons]
      -- After a CR comes no LF here, so the parser may forget the CR.
      have forgets : (parser.step first).step second =
          ((parser.line line).at_ [] false).step second := by
        rw [step_ends single fresh, pending]
        by_cases is : first = cr
        · have other : second ≠ lf := fun same => unpaired ⟨is, same⟩
          exact step_fresh other ((parser.line line).at_ [] false) (decide (first = cr))
        · simp [is]
      rw [absorb_ends pending splits last, ← ih _ rfl rfl, List.foldl_cons, List.foldl_cons, forgets,
        List.foldl_cons]
  | case6 line first second rest unpaired solid ih =>
      intro parser pending fresh
      have goes : parser.step first = parser.at_ (line ++ [first]) false := by
        simp [step, fresh, solid, at_, pending]
      have place : (parser.at_ (line ++ [first]) false).pending = line ++ [first] := rfl
      rw [List.foldl_cons, goes, ih _ rfl rfl, absorb, absorb, pending, splitFrom, if_neg unpaired,
        if_neg solid, List.getLast?_cons_cons, place, lines_at, at_at]

/-- A chunk is read a unit at a time; an empty one forgets a CR before it. -/
theorem feed_step {parser : SseParser} (plain : Plain parser.pending) (chunk : Units) :
    parser.feed chunk =
      if chunk = [] then parser.at_ parser.pending false else chunk.foldl step parser := by
  have absorbed : ∀ text, (split (parser.pending ++ text)).dropLast.foldl line
      { parser with
        endedOnCR := decide (text.getLast? = some cr)
        pending := (split (parser.pending ++ text)).getLast?.getD [] } =
      text.foldl step (parser.at_ parser.pending false) := by
    intro text
    have place : (parser.at_ parser.pending false).pending = parser.pending := rfl
    have splits := split_plain plain [] text
    rw [List.nil_append] at splits
    have moved := lines_at (splitFrom parser.pending text).dropLast parser
      ((splitFrom parser.pending text).getLast?.getD []) (decide (text.getLast? = some cr))
    rw [absorb_step _ _ _ rfl rfl, absorb, place, lines_at, at_at, split, splits, ← moved]
    rfl
  rw [feed]
  by_cases split_ : parser.endedOnCR = true ∧ chunk.head? = some lf
  · obtain ⟨rest, rfl⟩ := List.head?_eq_some_iff.mp split_.2
    rw [if_pos split_, if_neg (List.cons_ne_nil lf rest), List.foldl_cons]
    have skips : parser.step lf = parser.at_ parser.pending false := by
      simp [step, split_.1, at_]
    rw [skips]
    exact absorbed rest
  · rw [if_neg split_]
    refine (absorbed chunk).trans ?_
    cases chunk with
    | nil => rfl
    | cons unit rest =>
        rw [if_neg (List.cons_ne_nil unit rest), List.foldl_cons, List.foldl_cons]
        by_cases ended : parser.endedOnCR = true
        · have other : unit ≠ lf := by
            rintro rfl
            exact split_ ⟨ended, rfl⟩
          rw [← step_fresh other parser parser.endedOnCR]
          rfl
        · have fresh : parser.endedOnCR = false := by simpa using ended
          have same : parser.at_ parser.pending false = parser := by
            rw [at_, ← fresh]
          rw [same]

theorem step_plain {parser : SseParser} (plain : Plain parser.pending) (unit : UInt16) :
    Plain (parser.step unit).pending := by
  rw [step]
  split
  · exact plain
  · split
    · exact plain_nil
    · next solid => exact plain_snoc plain solid

theorem steps_plain (units : Units) {parser : SseParser} (plain : Plain parser.pending) :
    Plain (units.foldl step parser).pending := by
  induction units generalizing parser with
  | nil => exact plain
  | cons unit rest ih => exact ih (step_plain plain unit)

/-- A marked unit: after an empty chunk no CR is remembered. -/
def SseParser.stepMarked (parser : SseParser) (unit : UInt16 × Bool) : SseParser :=
  (if unit.2 then parser.at_ parser.pending false else parser).step unit.1

theorem steps_unmarked (units : Units) (parser : SseParser) :
    (units.map (·, false)).foldl stepMarked parser = units.foldl step parser := by
  rw [List.foldl_map]
  rfl

theorem feed_marked (gap : Bool) (chunks : List Units) (parser : SseParser)
    (plain : Plain parser.pending) :
    (chunks.foldl feed (if gap then parser.at_ parser.pending false else parser)).sent =
      ((marked gap chunks).foldl stepMarked parser).sent := by
  induction gap, chunks using marked.induct generalizing parser with
  | case1 gap =>
      cases gap <;> rfl
  | case2 gap rest ih =>
      have same : ∀ before : SseParser, before.pending = parser.pending →
          before = parser ∨ before = parser.at_ parser.pending false →
          before.feed [] = parser.at_ parser.pending false := by
        intro before place which
        rw [feed_step (place ▸ plain), if_pos rfl]
        rcases which with rfl | rfl <;> rfl
      have fed := ih parser plain
      rw [if_pos rfl] at fed
      rw [List.foldl_cons, marked, ← fed]
      cases gap with
      | false => rw [if_neg Bool.false_ne_true, same parser rfl (.inl rfl)]
      | true => rw [if_pos rfl, same (parser.at_ parser.pending false) rfl (.inr rfl)]
  | case3 gap unit more rest ih =>
      have place : Plain (if gap then parser.at_ parser.pending false else parser).pending := by
        cases gap <;> exact plain
      have first : Plain (parser.stepMarked (unit, gap)).pending := step_plain place unit
      have fed := ih (more.foldl step (parser.stepMarked (unit, gap))) (steps_plain more first)
      rw [if_neg Bool.false_ne_true] at fed
      rw [List.foldl_cons, feed_step place, if_neg (List.cons_ne_nil unit more), List.foldl_cons,
        marked, List.foldl_cons, List.foldl_append, steps_unmarked, ← fed]
      rfl

theorem marked_step {parser : SseParser} (fresh : parser.endedOnCR = false) (unit : UInt16 × Bool) :
    parser.stepMarked unit = parser.step unit.1 := by
  have same : parser.at_ parser.pending false = parser := by
    rw [at_, ← fresh]
  rw [stepMarked, same]
  split <;> rfl

/-- What the parser makes of a marked text are the events of its lines as they are read. -/
theorem marked_lines (line : Units) (text : List (UInt16 × Bool)) : ∀ parser : SseParser,
    parser.pending = line → parser.endedOnCR = false →
    (text.foldl stepMarked parser).sent =
      ((doubled (endedFrom line text)).foldl SseParser.line parser).sent := by
  induction line, text using endedFrom.induct with
  | case1 line =>
      intro parser pending fresh
      rfl
  | case2 line unit single =>
      intro parser pending fresh
      rw [List.foldl_cons, List.foldl_nil, marked_step fresh, step_ends single fresh, pending]
      simp [endedFrom, single, doubled, at_]
  | case3 line unit solid =>
      intro parser pending fresh
      rw [List.foldl_cons, List.foldl_nil, marked_step fresh, endedFrom, if_neg solid]
      rw [not_or] at solid
      simp [step, fresh, solid, doubled]
  | case4 line first second rest pair ih =>
      intro parser pending fresh
      have ended : parser.stepMarked first = (parser.line line).at_ [] true := by
        rw [marked_step fresh, step_ends (.inl pair.1) fresh, pending, pair.1]
        rfl
      rw [List.foldl_cons, List.foldl_cons, ended, endedFrom, if_pos pair]
      obtain ⟨unit, gap⟩ := second
      obtain ⟨-, is⟩ := pair
      have is : unit = lf := is
      subst is
      cases gap with
      | false =>
          -- The LF of the CRLF: nothing.
          have skips : ((parser.line line).at_ [] true).stepMarked (lf, false) =
              (parser.line line).at_ [] false := by
            simp [stepMarked, step, at_]
          rw [skips, ih _ rfl rfl, doubled, if_neg Bool.false_ne_true, List.foldl_cons, lines_at]
          rfl
      | true =>
          -- The CR is forgotten, and the LF ends an empty line.
          have again : ((parser.line line).at_ [] true).stepMarked (lf, true) =
              ((parser.line line).line []).at_ [] false := by
            have ends := step_ends (.inr rfl) (rfl : ((parser.line line).at_ [] false).endedOnCR = false)
            have place : ((parser.line line).at_ [] false).pending = [] := rfl
            rw [place, line_at, at_at] at ends
            exact ends
          rw [again, ih _ rfl rfl, doubled, if_pos rfl, List.foldl_cons, List.foldl_cons, lines_at]
          rfl
  | case5 line first second rest unpaired single ih =>
      intro parser pending fresh
      have forgets : (parser.stepMarked first).stepMarked second =
          ((parser.line line).at_ [] false).stepMarked second := by
        rw [marked_step fresh, step_ends single fresh, pending]
        by_cases is : first.1 = cr
        · have other : second.1 ≠ lf := fun same => unpaired ⟨is, same⟩
          have fresh : ((parser.line line).at_ [] false).endedOnCR = false := rfl
          rw [marked_step fresh, stepMarked]
          split
          · rfl
          · exact step_fresh other ((parser.line line).at_ [] false) (decide (first.1 = cr))
        · simp [is]
      have moves := ih ((parser.line line).at_ [] false) rfl rfl
      rw [List.foldl_cons] at moves
      rw [List.foldl_cons, List.foldl_cons, forgets, moves, endedFrom, if_neg unpaired, if_pos single,
        doubled, if_neg Bool.false_ne_true, List.foldl_cons, lines_at]
      rfl
  | case6 line first second rest unpaired solid ih =>
      intro parser pending fresh
      have goes : parser.stepMarked first = parser.at_ (line ++ [first.1]) false := by
        rw [marked_step fresh]
        simp [step, fresh, solid, at_, pending]
      rw [List.foldl_cons, goes, ih _ rfl rfl, endedFrom, if_neg unpaired, if_neg solid, lines_at]
      rfl

/-- Chunks are read as the lines of their text, some of whose ends are read twice. -/
theorem parse_doubled (chunks : List Units) :
    parse chunks = eventsFrom .empty (doubled (endedFrom [] (marked false chunks))) := by
  have fed := feed_marked false chunks initial plain_nil
  rw [if_neg Bool.false_ne_true] at fed
  rw [parse, fed, marked_lines [] _ initial rfl rfl, lines_sent]
  rfl

theorem events_ended (chunks : List Units) : EventStream.events chunks.flatten =
    eventsFrom .empty ((endedFrom [] (marked false chunks)).map (·.line)) := by
  rw [ended_lines, marked_text]
  rfl

theorem unmarked_once (line : Units) (text : List (UInt16 × Bool))
    (none : ∀ unit ∈ text, unit.2 = false) : doubled (endedFrom line text) =
      (endedFrom line text).map (·.line) := by
  induction line, text using endedFrom.induct with
  | case1 line => rfl
  | case2 line unit single => simp [endedFrom, single, doubled]
  | case3 line unit solid => simp [endedFrom, solid, doubled]
  | case4 line first second rest pair ih =>
      simp only [List.forall_mem_cons] at none
      simp [endedFrom, pair, doubled, none.2.1, ih none.2.2]
  | case5 line first second rest unpaired single ih =>
      rw [endedFrom, if_neg unpaired, if_pos single, doubled, if_neg Bool.false_ne_true,
        ih (List.forall_mem_cons.mp none).2]
      rfl
  | case6 line first second rest unpaired solid ih =>
      rw [endedFrom, if_neg unpaired, if_neg solid, ih (List.forall_mem_cons.mp none).2]

/-- A text in one chunk is read as the format says. -/
theorem parse_whole (text : Units) : parse [text] = EventStream.events text := by
  have same := events_ended [text]
  rw [List.flatten_singleton] at same
  rw [parse_doubled, same, unmarked_once]
  intro unit listed
  cases text with
  | nil => cases listed
  | cons first rest =>
      simp only [marked, List.append_nil, List.mem_cons, List.mem_map] at listed
      rcases listed with rfl | ⟨other, -, rfl⟩ <;> rfl

/-- However a text is cut, the events are those of the whole text, and of the format, exactly
when no CRLF with an empty chunk between its two units cuts an event. -/
theorem chunks_read_whole (chunks : List Units) :
    (parse chunks = parse [chunks.flatten] ∧ parse chunks = EventStream.events chunks.flatten) ↔
      Uncut chunks := by
  rw [parse_whole, and_self, parse_doubled, events_ended, doubled_events, Uncut]

/-- Two data lines of one event, and an empty chunk within the CRLF between them. -/
theorem empty_chunk_splits :
    parse [ofText "data: x\r".toList, [], ofText "\ndata: y\n\n".toList] =
        [⟨message, ofText "x".toList⟩, ⟨message, ofText "y".toList⟩] ∧
      parse [ofText "data: x\r\ndata: y\n\n".toList] = [⟨message, ofText "x\ny".toList⟩] := by
  decide

end Foc.Web.Sse
