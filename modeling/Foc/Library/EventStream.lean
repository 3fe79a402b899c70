import Foc.Library.Utf16
import Mathlib

/-!
The event-stream format: a text's lines, ended by CRLF, LF or CR, and the events that its
event, data and comment lines make. An event that the text does not end is none. What
becomes of the events when some line ends are followed by one more, empty line.
-/
namespace Foc.Library.EventStream
open Utf16

def cr : UInt16 := 13

def lf : UInt16 := 10

def colon : UInt16 := 58

def space : UInt16 := 32

/-- No line end in it. -/
def Plain (units : Units) : Prop := cr ∉ units ∧ lf ∉ units

/-! ## Lines -/

/-- A line end, before what follows it: a CR with a LF behind it is a CRLF. -/
inductive Ends : Units → Units → Prop where
  | crlf (more : Units) : Ends [cr, lf] more
  | lf (more : Units) : Ends [lf] more
  | cr {more : Units} (alone : more.head? ≠ some lf) : Ends [cr] more

/-- The lines that a text ends; what is left after them is no line. -/
inductive Lines : Units → List Units → Prop where
  | rest {units : Units} (plain : Plain units) : Lines units []
  | line {line ending more : Units} {others : List Units} (plain : Plain line)
      (ends : Ends ending more) (lines : Lines more others) :
      Lines (line ++ ending ++ more) (line :: others)

/-- The lines of a text, of which the first has begun with `line`. -/
def linesFrom (line : Units) : Units → List Units
  | [] => []
  | [unit] => if unit = cr ∨ unit = lf then [line] else []
  | first :: second :: rest =>
      if first = cr ∧ second = lf then line :: linesFrom [] rest
      else if first = cr ∨ first = lf then line :: linesFrom [] (second :: rest)
      else linesFrom (line ++ [first]) (second :: rest)

def lines (units : Units) : List Units := linesFrom [] units

theorem plain_nil : Plain [] := ⟨List.not_mem_nil, List.not_mem_nil⟩

theorem plain_snoc {line : Units} {unit : UInt16} (plain : Plain line)
    (solid : ¬ (unit = cr ∨ unit = lf)) : Plain (line ++ [unit]) := by
  rw [not_or] at solid
  constructor
  · simpa [plain.1] using Ne.symm solid.1
  · simpa [plain.2] using Ne.symm solid.2

theorem lines_from (line units : Units) (plain : Plain line) :
    Lines (line ++ units) (linesFrom line units) := by
  induction line, units using linesFrom.induct with
  | case1 line =>
      rw [List.append_nil]
      exact .rest plain
  | case2 line unit single =>
      have ends : Ends [unit] [] := by
        rcases single with rfl | rfl
        · exact .cr (by simp)
        · exact .lf []
      have ended := Lines.line plain ends (.rest plain_nil)
      rw [List.append_nil] at ended
      rw [linesFrom, if_pos single]
      exact ended
  | case3 line unit solid =>
      rw [linesFrom, if_neg solid]
      exact .rest (plain_snoc plain solid)
  | case4 line first second rest pair ih =>
      have ended := Lines.line plain (.crlf rest) (ih plain_nil)
      rw [linesFrom, if_pos pair, pair.1, pair.2]
      simpa using ended
  | case5 line first second rest unpaired single ih =>
      have ends : Ends [first] (second :: rest) := by
        rcases single with rfl | rfl
        · exact .cr (by simpa using unpaired)
        · exact .lf _
      have ended := Lines.line plain ends (ih plain_nil)
      rw [linesFrom, if_neg unpaired, if_pos single]
      simpa using ended
  | case6 line first second rest unpaired solid ih =>
      have more := ih (plain_snoc plain solid)
      rw [linesFrom, if_neg unpaired, if_neg solid]
      simpa using more

/-- Every text has its lines. -/
theorem lines_of (units : Units) : Lines units (lines units) := lines_from [] units plain_nil

theorem lines_from_solid {unit : UInt16} (solid : unit ≠ cr ∧ unit ≠ lf) (line rest : Units) :
    linesFrom line (unit :: rest) = linesFrom (line ++ [unit]) rest := by
  cases rest with
  | nil => simp [linesFrom, solid]
  | cons second rest => simp [linesFrom, solid]

theorem lines_from_plain {units : Units} (plain : Plain units) (line rest : Units) :
    linesFrom line (units ++ rest) = linesFrom (line ++ units) rest := by
  induction units generalizing line with
  | nil => simp
  | cons unit units ih =>
      obtain ⟨uncr, unlf⟩ := plain
      rw [List.mem_cons, not_or] at uncr unlf
      rw [List.cons_append, lines_from_solid ⟨Ne.symm uncr.1, Ne.symm unlf.1⟩, ih ⟨uncr.2, unlf.2⟩]
      simp

theorem lines_from_ending {ending more : Units} (ends : Ends ending more) (line : Units) :
    linesFrom line (ending ++ more) = line :: linesFrom [] more := by
  cases ends with
  | crlf => simp [linesFrom]
  | lf =>
      cases more with
      | nil => simp [linesFrom]
      | cons unit more => simp [linesFrom, lf, cr]
  | cr alone =>
      cases more with
      | nil => simp [linesFrom]
      | cons unit more =>
          have other : unit ≠ lf := by simpa using alone
          simp [linesFrom, other]

/-- A text has one list of lines. -/
theorem lines_iff {units : Units} {found : List Units} : Lines units found ↔ found = lines units := by
  constructor
  · intro are
    induction are with
    | rest plain =>
        have none := lines_from_plain plain [] []
        rw [List.append_nil] at none
        rw [lines, none, linesFrom]
    | line plain ends _ ih =>
        rw [lines, List.append_assoc, lines_from_plain plain, lines_from_ending ends, ih]
        rfl
  · rintro rfl
    exact lines_of units

/-! ## Events -/

structure Event where
  type : Units
  data : Units
  deriving DecidableEq

def eventField : Units := ofText "event".toList

def dataField : Units := ofText "data".toList

def message : Units := ofText "message".toList

/-- A line's field and its value: what stands before the first colon and after it, less one
space. Without a colon the line is a field without a value. -/
def field (line : Units) : Units × Units :=
  let value := (line.dropWhile (· ≠ colon)).drop 1
  (line.takeWhile (· ≠ colon), if value.head? = some space then value.drop 1 else value)

/-- What an event has so far. -/
structure Buffers where
  type : Units
  data : Units
  deriving DecidableEq

def Buffers.empty : Buffers := ⟨[], []⟩

/-- A line that is not empty: a comment, a field or an unknown field. -/
def Buffers.add (buffers : Buffers) (line : Units) : Buffers :=
  if line.head? = some colon then buffers
  else if (field line).1 = eventField then { buffers with type := (field line).2 }
  else if (field line).1 = dataField then
    { buffers with data := buffers.data ++ (field line).2 ++ [lf] }
  else buffers

/-- An event without data is none; the last LF is not part of the data. -/
def Buffers.dispatch (buffers : Buffers) : Option Event :=
  if buffers.data = [] then none
  else some
    { type := if buffers.type = [] then message else buffers.type
      data := buffers.data.dropLast }

def eventsFrom (buffers : Buffers) : List Units → List Event
  | [] => []
  | line :: rest =>
      if line = [] then buffers.dispatch.toList ++ eventsFrom .empty rest
      else eventsFrom (buffers.add line) rest

def events (text : Units) : List Event := eventsFrom .empty (lines text)

/-! ## What a run of lines gives an event -/

/-- The value that a line gives a field. -/
def fieldValue (name line : Units) : Option Units :=
  if (field line).1 = name then some (field line).2 else none

def HoldsData (lines : List Units) : Prop := ∃ line ∈ lines, (field line).1 = dataField

/-- The name that the lines give the event, by the last line that gives one. -/
def nameOf (lines : List Units) : Units :=
  match (lines.filterMap (fieldValue eventField)).getLast? with
  | none => message
  | some name => if name = [] then message else name

def dataOf (lines : List Units) : Units :=
  (lines.filterMap (fieldValue dataField)).flatMap (· ++ [lf])

/-- The event of the lines, when an empty one ends them. -/
def eventOf (lines : List Units) : Option Event := (lines.foldl Buffers.add .empty).dispatch

theorem comment_field {line : Units} (comment : line.head? = some colon) : (field line).1 = [] := by
  cases line with
  | nil => rfl
  | cons unit rest =>
      have first : unit = colon := by simpa using comment
      simp [field, first]

theorem add_line (buffers : Buffers) (line : Units) : buffers.add line =
    { type := (fieldValue eventField line).getD buffers.type
      data := buffers.data ++ ((fieldValue dataField line).toList.flatMap (· ++ [lf])) } := by
  by_cases comment : line.head? = some colon
  · have nothing := comment_field comment
    have unnamed : ¬ ([] : Units) = eventField := by decide
    have undated : ¬ ([] : Units) = dataField := by decide
    simp [Buffers.add, comment, fieldValue, nothing, unnamed, undated]
  · by_cases naming : (field line).1 = eventField
    · have undated : ¬ eventField = dataField := by decide
      simp [Buffers.add, comment, fieldValue, naming, undated]
    · by_cases dating : (field line).1 = dataField
      · have unnamed : ¬ dataField = eventField := by decide
        simp [Buffers.add, comment, fieldValue, dating, unnamed]
      · simp [Buffers.add, comment, fieldValue, naming, dating]

theorem add_lines (buffers : Buffers) (lines : List Units) : lines.foldl Buffers.add buffers =
    { type := (lines.filterMap (fieldValue eventField)).getLast?.getD buffers.type
      data := buffers.data ++ dataOf lines } := by
  induction lines generalizing buffers with
  | nil => simp [dataOf]
  | cons line rest ih =>
      rw [List.foldl_cons, ih, add_line]
      have named : ((line :: rest).filterMap (fieldValue eventField)).getLast?.getD buffers.type =
          (rest.filterMap (fieldValue eventField)).getLast?.getD
            ((fieldValue eventField line).getD buffers.type) := by
        cases given : fieldValue eventField line with
        | none => rw [List.filterMap_cons_none given, Option.getD_none]
        | some name =>
            rw [List.filterMap_cons_some given, List.getLast?_cons, Option.getD_some,
              Option.getD_some]
      have dated : dataOf (line :: rest) =
          (fieldValue dataField line).toList.flatMap (· ++ [lf]) ++ dataOf rest := by
        rw [dataOf, dataOf]
        cases given : fieldValue dataField line with
        | none => simp [given]
        | some value => simp [given]
      rw [named, dated, List.append_assoc]

theorem data_iff {lines : List Units} : dataOf lines = [] ↔ ¬ HoldsData lines := by
  simp only [dataOf, List.flatMap_eq_nil_iff, List.mem_filterMap, HoldsData, fieldValue]
  constructor
  · rintro none ⟨line, listed, dating⟩
    have ended := none (field line).2 ⟨line, listed, if_pos dating⟩
    simp at ended
  · rintro none value ⟨line, listed, given⟩
    by_cases dating : (field line).1 = dataField
    · exact absurd ⟨line, listed, dating⟩ none
    · rw [if_neg dating] at given
      cases given

theorem event_some {lines : List Units} (holds : HoldsData lines) :
    eventOf lines = some { type := nameOf lines, data := (dataOf lines).dropLast } := by
  have data : dataOf lines ≠ [] := fun none => data_iff.mp none holds
  rw [eventOf, add_lines, Buffers.dispatch]
  simp only [Buffers.empty, List.nil_append, data, if_false, nameOf]
  cases (lines.filterMap (fieldValue eventField)).getLast? with
  | none => simp
  | some name => simp

theorem event_none {lines : List Units} : eventOf lines = none ↔ ¬ HoldsData lines := by
  by_cases holds : HoldsData lines
  · simp [event_some holds, holds]
  · have data := data_iff.mpr holds
    rw [eventOf, add_lines, Buffers.dispatch]
    simp [Buffers.empty, data, holds]

theorem data_append (first second : List Units) :
    dataOf (first ++ second) = dataOf first ++ dataOf second := by
  simp [dataOf]

theorem holds_append {first second : List Units} :
    HoldsData (first ++ second) ↔ HoldsData first ∨ HoldsData second := by
  simp only [HoldsData, List.mem_append]
  constructor
  · rintro ⟨line, listed | listed, dating⟩
    · exact .inl ⟨line, listed, dating⟩
    · exact .inr ⟨line, listed, dating⟩
  · rintro (⟨line, listed, dating⟩ | ⟨line, listed, dating⟩)
    · exact ⟨line, .inl listed, dating⟩
    · exact ⟨line, .inr listed, dating⟩

theorem holds_flatten {pieces : List (List Units)} :
    HoldsData pieces.flatten ↔ ∃ piece ∈ pieces, HoldsData piece := by
  induction pieces with
  | nil => simp [HoldsData]
  | cons piece rest ih => rw [List.flatten_cons, holds_append, ih, List.exists_mem_cons_iff]

/-! ## Line ends read twice -/

/-- A line, and whether its end is followed by one more. -/
structure Ended where
  line : Units
  twice : Bool
  deriving DecidableEq

/-- The lines as they are read. -/
def doubled : List Ended → List Units
  | [] => []
  | first :: rest =>
      if first.twice then first.line :: [] :: doubled rest else first.line :: doubled rest

/-- The runs of lines that an empty line ends, and what is left after the last of them. -/
def blocks : List Ended → List (List Ended) × List Ended
  | [] => ([], [])
  | first :: rest =>
      if first.line = [] then ([] :: (blocks rest).1, (blocks rest).2)
      else
        match (blocks rest).1 with
        | [] => ([], first :: (blocks rest).2)
        | block :: others => ((first :: block) :: others, (blocks rest).2)

/-- What the line ends read twice cut a run of lines into. -/
def pieces : List Ended → List (List Units)
  | [] => [[]]
  | first :: rest =>
      if first.twice then [first.line] :: pieces rest
      else
        match pieces rest with
        | [] => [[first.line]]
        | piece :: others => (first.line :: piece) :: others

/-- One of the pieces at most holds data, and it names the event as the whole does. -/
def Undivided (pieces : List (List Units)) : Prop :=
  ∀ before piece after, pieces = before ++ piece :: after → HoldsData piece →
    (∀ other ∈ before ++ after, ¬ HoldsData other) ∧ nameOf piece = nameOf pieces.flatten

/-- No event is cut: of the lines that are left no piece but the last holds data. -/
structure Spared (ended : List Ended) : Prop where
  events : ∀ block ∈ (blocks ended).1, Undivided (pieces block)
  rest : ∀ piece ∈ (pieces (blocks ended).2).dropLast, ¬ HoldsData piece

theorem none_hold {pieces : List (List Units)} :
    pieces.filterMap eventOf = [] ↔ ∀ piece ∈ pieces, ¬ HoldsData piece := by
  simp only [List.filterMap_eq_nil_iff, event_none]

/-- A run of lines makes the same events, read as its pieces, exactly when it is undivided. -/
theorem undivided_iff (pieces : List (List Units)) :
    pieces.filterMap eventOf = (eventOf pieces.flatten).toList ↔ Undivided pieces := by
  constructor
  · rintro same before piece after rfl holds
    have whole : HoldsData (before ++ piece :: after).flatten :=
      holds_flatten.mpr ⟨piece, by simp, holds⟩
    rw [event_some whole, List.filterMap_append, List.filterMap_cons_some (event_some holds),
      Option.toList_some, List.append_eq_singleton_iff] at same
    rcases same with ⟨first, event⟩ | ⟨-, last⟩
    · rw [List.cons_eq_cons] at event
      constructor
      · intro other listed
        rcases List.mem_append.mp listed with earlier | later
        · exact none_hold.mp first other earlier
        · exact none_hold.mp event.2 other later
      · exact congrArg Event.type event.1
    · cases last
  · intro undivided
    by_cases whole : HoldsData pieces.flatten
    · obtain ⟨piece, listed, holds⟩ := holds_flatten.mp whole
      obtain ⟨before, after, rfl⟩ := List.append_of_mem listed
      obtain ⟨others, named⟩ := undivided before piece after rfl holds
      have first : before.filterMap eventOf = [] :=
        none_hold.mpr fun other earlier => others other (List.mem_append_left _ earlier)
      have last : after.filterMap eventOf = [] :=
        none_hold.mpr fun other later => others other (List.mem_append_right _ later)
      have earlier : dataOf before.flatten = [] := by
        rw [data_iff, holds_flatten]
        rintro ⟨other, there, data⟩
        exact others other (List.mem_append_left _ there) data
      have later : dataOf after.flatten = [] := by
        rw [data_iff, holds_flatten]
        rintro ⟨other, there, data⟩
        exact others other (List.mem_append_right _ there) data
      have data : dataOf (before ++ piece :: after).flatten = dataOf piece := by
        rw [List.flatten_append, List.flatten_cons, data_append, data_append, earlier, later,
          List.nil_append, List.append_nil]
      rw [event_some whole, data, ← named, List.filterMap_append,
        List.filterMap_cons_some (event_some holds), first, last]
      rfl
    · have none : ∀ piece ∈ pieces, ¬ HoldsData piece := fun piece listed holds =>
        whole (holds_flatten.mpr ⟨piece, listed, holds⟩)
      rw [none_hold.mpr none, event_none.mpr whole]
      rfl

/-- A piece more makes no fewer events. -/
theorem pieces_more (pieces : List (List Units)) :
    (eventOf pieces.flatten).toList.length ≤ (pieces.filterMap eventOf).length := by
  by_cases whole : HoldsData pieces.flatten
  · rw [event_some whole]
    have some_ : pieces.filterMap eventOf ≠ [] := by
      intro none
      obtain ⟨piece, listed, holds⟩ := holds_flatten.mp whole
      exact none_hold.mp none piece listed holds
    exact List.length_pos_of_ne_nil some_
  · simp [event_none.mpr whole]

/-- Lists that are no shorter part for part are the same as a whole when they are part for
part, and nothing follows. -/
theorem aligned {α β : Type} {longer shorter : α → List β} {items : List α} {rest : List β}
    (more : ∀ item, (shorter item).length ≤ (longer item).length) :
    items.flatMap longer ++ rest = items.flatMap shorter ↔
      (∀ item ∈ items, longer item = shorter item) ∧ rest = [] := by
  induction items with
  | nil => simp
  | cons item items ih =>
      have lengths : ((items.flatMap shorter).length) ≤ (items.flatMap longer ++ rest).length := by
        simp only [List.length_append, List.length_flatMap]
        refine Nat.le_add_right_of_le (List.sum_le_sum ?_)
        intro other _
        exact more other
      rw [List.flatMap_cons, List.flatMap_cons, List.append_assoc, List.forall_mem_cons, and_assoc,
        ← ih]
      constructor
      · intro same
        have total := congrArg List.length same
        simp only [List.length_append] at total lengths
        have first := more item
        exact List.append_inj same (by omega)
      · rintro ⟨first, others⟩
        rw [first, others]

/-- The events of pieces, the first of which goes on with what the buffers hold. -/
def readFrom (buffers : Buffers) : List (List Units) → List Event
  | [] => []
  | piece :: rest => (piece.foldl Buffers.add buffers).dispatch.toList ++ rest.filterMap eventOf

/-- The events of doubled lines, by their blocks. -/
def readBlocks (buffers : Buffers) (ended : List Ended) : List Event :=
  match (blocks ended).1 with
  | [] => readFrom buffers (pieces (blocks ended).2).dropLast
  | block :: others =>
      readFrom buffers (pieces block) ++ (others.flatMap (fun block => (pieces block).filterMap eventOf) ++
        (pieces (blocks ended).2).dropLast.filterMap eventOf)

theorem read_empty (pieces : List (List Units)) :
    readFrom .empty pieces = pieces.filterMap eventOf := by
  cases pieces with
  | nil => rfl
  | cons piece rest =>
      rw [readFrom, ← eventOf]
      cases made : eventOf piece with
      | none => simp [made]
      | some event => simp [made]

theorem pieces_cons (first : Ended) (rest : List Ended) : ∃ piece others,
    pieces (first :: rest) = piece :: others := by
  rw [pieces]
  split
  · exact ⟨_, _, rfl⟩
  · split <;> exact ⟨_, _, rfl⟩

theorem pieces_some (ended : List Ended) : ∃ piece others, pieces ended = piece :: others := by
  cases ended with
  | nil => exact ⟨[], [], rfl⟩
  | cons first rest => exact pieces_cons first rest

theorem pieces_flatten (ended : List Ended) : (pieces ended).flatten = ended.map (·.line) := by
  induction ended with
  | nil => rfl
  | cons first rest ih =>
      obtain ⟨piece, others, found⟩ := pieces_some rest
      rw [found, List.flatten_cons] at ih
      rw [pieces, List.map_cons, ← ih]
      split
      · rw [found]
        simp
      · rw [found]
        simp

theorem read_twice {first : Ended} (twice : first.twice = true) (buffers : Buffers)
    (rest : List Ended) : readFrom buffers (pieces (first :: rest)) =
      (buffers.add first.line).dispatch.toList ++ (pieces rest).filterMap eventOf := by
  rw [pieces, if_pos twice]
  rfl

theorem read_once {first : Ended} (once : ¬ first.twice = true) (buffers : Buffers)
    (rest : List Ended) : readFrom buffers (pieces (first :: rest)) =
      readFrom (buffers.add first.line) (pieces rest) := by
  obtain ⟨piece, others, found⟩ := pieces_some rest
  rw [pieces, if_neg once, found]
  rfl

theorem last_twice {first : Ended} (twice : first.twice = true) (buffers : Buffers)
    (rest : List Ended) : readFrom buffers (pieces (first :: rest)).dropLast =
      (buffers.add first.line).dispatch.toList ++ (pieces rest).dropLast.filterMap eventOf := by
  obtain ⟨piece, others, found⟩ := pieces_some rest
  rw [pieces, if_pos twice, found, List.dropLast_cons_cons]
  rfl

theorem last_once {first : Ended} (once : ¬ first.twice = true) (buffers : Buffers)
    (rest : List Ended) : readFrom buffers (pieces (first :: rest)).dropLast =
      readFrom (buffers.add first.line) (pieces rest).dropLast := by
  obtain ⟨piece, others, found⟩ := pieces_some rest
  rw [pieces, if_neg once, found]
  cases others with
  | nil => rfl
  | cons other others => rfl

theorem read_blocks_empty (ended : List Ended) : readBlocks .empty ended =
    (blocks ended).1.flatMap (fun block => (pieces block).filterMap eventOf) ++
      (pieces (blocks ended).2).dropLast.filterMap eventOf := by
  rw [readBlocks]
  split
  · next none => rw [none, read_empty, List.flatMap_nil, List.nil_append]
  · next block others found =>
    rw [found, read_empty, List.flatMap_cons, List.append_assoc]

theorem blocks_blank {first : Ended} (blank : first.line = []) (rest : List Ended) :
    blocks (first :: rest) = ([] :: (blocks rest).1, (blocks rest).2) := by
  rw [blocks, if_pos blank]

theorem blocks_left {first : Ended} (full : first.line ≠ []) {rest : List Ended}
    (none : (blocks rest).1 = []) : blocks (first :: rest) = ([], first :: (blocks rest).2) := by
  rw [blocks, if_neg full, none]

theorem blocks_more {first : Ended} (full : first.line ≠ []) {rest block : List Ended}
    {others : List (List Ended)} (found : (blocks rest).1 = block :: others) :
    blocks (first :: rest) = ((first :: block) :: others, (blocks rest).2) := by
  rw [blocks, if_neg full, found]

theorem read_doubled (buffers : Buffers) (ended : List Ended) :
    eventsFrom buffers (doubled ended) = readBlocks buffers ended := by
  induction ended generalizing buffers with
  | nil => rfl
  | cons first rest ih =>
      have fresh := (ih .empty).trans (read_blocks_empty rest)
      by_cases blank : first.line = []
      · -- The second line end of an empty line finds no data.
        have ends : eventsFrom buffers (doubled (first :: rest)) =
            buffers.dispatch.toList ++ eventsFrom .empty (doubled rest) := by
          rw [doubled]
          split
          · simp [eventsFrom, blank, Buffers.dispatch, Buffers.empty]
          · simp [eventsFrom, blank]
        rw [ends, fresh, readBlocks, blocks_blank blank]
        simp [pieces, readFrom]
      · by_cases twice : first.twice = true
        · have ends : eventsFrom buffers (doubled (first :: rest)) =
              (buffers.add first.line).dispatch.toList ++ eventsFrom .empty (doubled rest) := by
            simp [doubled, twice, eventsFrom, blank]
          rw [ends, fresh, readBlocks]
          cases found : (blocks rest).1 with
          | nil => rw [blocks_left blank found, last_twice twice, List.flatMap_nil, List.nil_append]
          | cons block others =>
              simp only [blocks_more blank found, read_twice twice, List.flatMap_cons,
                List.append_assoc]
        · have goes : eventsFrom buffers (doubled (first :: rest)) =
              eventsFrom (buffers.add first.line) (doubled rest) := by
            simp [doubled, twice, eventsFrom, blank]
          rw [goes, ih, readBlocks, readBlocks]
          cases found : (blocks rest).1 with
          | nil => rw [blocks_left blank found, last_once twice]
          | cons block others => simp only [blocks_more blank found, read_once twice]

theorem events_blocks (buffers : Buffers) (ended : List Ended) :
    eventsFrom buffers (ended.map (·.line)) =
      match (blocks ended).1 with
      | [] => []
      | block :: others => ((block.map (·.line)).foldl Buffers.add buffers).dispatch.toList ++
          others.flatMap fun block => (eventOf (block.map (·.line))).toList := by
  induction ended generalizing buffers with
  | nil => rfl
  | cons first rest ih =>
      rw [List.map_cons, eventsFrom]
      by_cases blank : first.line = []
      · rw [if_pos blank, blocks_blank blank, ih]
        cases (blocks rest).1 with
        | nil => simp
        | cons block others => simp [eventOf]
      · rw [if_neg blank, ih]
        cases found : (blocks rest).1 with
        | nil => rw [blocks_left blank found]
        | cons block others => simp [blocks_more blank found]

/-- Lines whose ends are read twice make the same events exactly when no event is cut. -/
theorem doubled_events (ended : List Ended) :
    eventsFrom .empty (doubled ended) = eventsFrom .empty (ended.map (·.line)) ↔ Spared ended := by
  have whole : eventsFrom .empty (ended.map (·.line)) =
      (blocks ended).1.flatMap fun block => (eventOf (pieces block).flatten).toList := by
    rw [events_blocks]
    cases (blocks ended).1 with
    | nil => rfl
    | cons block others => simp [eventOf, pieces_flatten]
  rw [read_doubled, read_blocks_empty, whole, aligned fun block => pieces_more (pieces block), none_hold]
  constructor
  · rintro ⟨each, rest⟩
    exact ⟨fun block listed => (undivided_iff _).mp (each block listed), rest⟩
  · rintro ⟨each, rest⟩
    exact ⟨fun block listed => (undivided_iff _).mpr (each block listed), rest⟩

end Foc.Library.EventStream
