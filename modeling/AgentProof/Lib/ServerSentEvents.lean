import Mathlib.Tactic

/-!
# Server-sent events

The text of an event stream, and its reader.  The reader goes by lines, which end
with a line feed, a carriage return or both; a blank line dispatches the event
that the fields before it have built.  A text that is written in frames is read
back frame by frame, and it does not matter how the text is cut on its way.
A leading byte order mark, and the fields that only matter to a reconnection, are
left out.
-/

namespace ServerSentEvents

/-- UTF-16 code units. -/
abbrev Units := List UInt16

def units (s : String) : Units := s.toList.map fun c => UInt16.ofNat c.toNat

structure Message where
  type : Units
  data : Units
  deriving DecidableEq, Repr

/-! ## The reader -/

structure Reader where
  /-- The line so far. -/
  line : Units
  /-- The line before ended with a carriage return. -/
  afterReturn : Bool
  type : Units
  data : Units
  deriving DecidableEq, Repr

namespace Reader

def start : Reader := ⟨[], false, [], []⟩

/-- Without data there is no event; the last line feed of the data goes. -/
def dispatch (r : Reader) : Reader × Option Message :=
  (⟨[], r.afterReturn, [], []⟩,
    if r.data = [] then none
    else some ⟨if r.type = [] then units "message" else r.type, r.data.dropLast⟩)

/-- The name of a field and its value, less one space before it. -/
def field (line : Units) : Units × Units :=
  let name := line.takeWhile (· ≠ 58)
  let value := line.drop (name.length + 1)
  (name, if value.head? = some 32 then value.tail else value)

/-- A comment is a field without a name. -/
def process (r : Reader) (line : Units) : Reader :=
  let (name, value) := field line
  if name = units "event" then { r with type := value }
  else if name = units "data" then { r with data := r.data ++ value ++ [10] }
  else r

def endLine (r : Reader) : Reader × Option Message :=
  if r.line = [] then r.dispatch else ({ r.process r.line with line := [] }, none)

def feed (r : Reader) (c : UInt16) : Reader × Option Message :=
  if c = 10 then
    if r.afterReturn then ({ r with afterReturn := false }, none) else r.endLine
  else if c = 13 then { r with afterReturn := true }.endLine
  else ({ r with line := r.line ++ [c], afterReturn := false }, none)

def read (r : Reader) : Units → Reader × List Message
  | [] => (r, [])
  | c :: rest =>
      let (next, message) := r.feed c
      let (last, messages) := next.read rest
      (last, message.toList ++ messages)

/-- The text as it comes in. -/
def readChunks (r : Reader) : List Units → Reader × List Message
  | [] => (r, [])
  | chunk :: rest =>
      let (next, first) := r.read chunk
      let (last, messages) := next.readChunks rest
      (last, first ++ messages)

variable {r : Reader} {c : UInt16} {text text' line : Units} {chunks : List Units}

@[simp] theorem read_nil : r.read [] = (r, []) := rfl

theorem read_cons : r.read (c :: text) =
    (((r.feed c).1.read text).1, (r.feed c).2.toList ++ ((r.feed c).1.read text).2) := rfl

theorem read_append : r.read (text ++ text') =
    (((r.read text).1.read text').1, (r.read text).2 ++ ((r.read text).1.read text').2) := by
  induction text generalizing r with
  | nil => rfl
  | cons c text ih =>
      rw [List.cons_append, read_cons, ih, read_cons, List.append_assoc]

/-- How the text is cut does not matter. -/
theorem readChunks_eq : r.readChunks chunks = r.read chunks.flatten := by
  induction chunks generalizing r with
  | nil => rfl
  | cons chunk rest ih =>
      rw [List.flatten_cons, read_append, ← ih]
      rfl

/-! ## Lines -/

/-- No line ends in the text. -/
def OneLine (text : Units) : Prop := ∀ c ∈ text, c ≠ 10 ∧ c ≠ 13

instance : DecidablePred OneLine := fun text => List.decidableBAll (fun c => c ≠ 10 ∧ c ≠ 13) text

theorem OneLine.append (first : OneLine text) (second : OneLine text') :
    OneLine (text ++ text') := by
  intro c mem
  exact (List.mem_append.mp mem).elim (first c) (second c)

/-- Between two lines. -/
def AtLine (r : Reader) : Prop := r.line = [] ∧ r.afterReturn = false

theorem read_oneLine (whole : OneLine line) (ready : r.afterReturn = false) :
    r.read line = ({ r with line := r.line ++ line }, []) := by
  induction line generalizing r with
  | nil => simp
  | cons c rest ih =>
      obtain ⟨noFeed, noReturn⟩ := whole c List.mem_cons_self
      have fed : r.feed c = ({ r with line := r.line ++ [c], afterReturn := false }, none) := by
        rw [feed, if_neg noFeed, if_neg noReturn]
      rw [read_cons, fed, ih (fun c mem => whole c (List.mem_cons_of_mem _ mem)) rfl]
      simp [ready]

/-- A line with its end is a field. -/
theorem read_line (whole : OneLine line) (full : line ≠ []) (ready : r.AtLine) :
    r.read (line ++ [10]) = ({ r.process line with line := [] }, []) := by
  rcases r with ⟨before, afterReturn, type, data⟩
  obtain ⟨rfl, rfl⟩ := ready
  rw [read_append, read_oneLine whole rfl]
  -- the fields of a line do not depend on the line kept so far
  simp only [List.nil_append, read_cons, feed, if_true, Bool.false_eq_true, if_false, endLine, full,
    process, read_nil, Option.toList_none]
  split_ifs <;> rfl

theorem read_blank (ready : r.AtLine) : r.read [10] = (r.dispatch.1, r.dispatch.2.toList) := by
  obtain ⟨noLine, noReturn⟩ := ready
  simp [read_cons, feed, noReturn, endLine, noLine]

theorem field_colon {name value : Units} (bare : 58 ∉ name) :
    field (name ++ 58 :: 32 :: value) = (name, value) := by
  have taken : (name ++ 58 :: 32 :: value).takeWhile (· ≠ 58) = name := by
    have passed : ∀ c ∈ name, decide (c ≠ 58) = true := fun c mem =>
      decide_eq_true fun colon => bare (colon ▸ mem)
    rw [List.takeWhile_append_of_pos passed]
    simp
  rw [field, taken]
  simp

end Reader

/-! ## Frames -/

inductive Frame
  | comment (text : Units)
  | event (type data : Units)
  deriving DecidableEq, Repr

namespace Frame

def text : Frame → Units
  | comment text => units ": " ++ text ++ units "\n\n"
  | event type data => units "event: " ++ type ++ units "\ndata: " ++ data ++ units "\n\n"

/-- Each field of the frame is one line. -/
def Sound : Frame → Prop
  | comment text => Reader.OneLine text
  | event type data => Reader.OneLine type ∧ Reader.OneLine data

instance : DecidablePred Sound
  | comment _ => inferInstanceAs (Decidable (Reader.OneLine _))
  | event _ _ => inferInstanceAs (Decidable (_ ∧ _))

def message : Frame → Option Message
  | comment _ => none
  | event type data => some ⟨if type = [] then units "message" else type, data⟩

variable {frame : Frame} {frames : List Frame}

open Reader

theorem read_comment {body : Units} (sound : (comment body).Sound) :
    start.read (comment body).text = (start, []) := by
  have split : (comment body).text = (units ": " ++ body ++ [10]) ++ [10] := by
    rw [List.append_assoc _ [10] [10]]
    rfl
  have whole : OneLine (units ": " ++ body) := OneLine.append (by decide) sound
  have named : field (units ": " ++ body) = ([], body) := field_colon List.not_mem_nil
  rw [split, read_append, read_line whole (by simp [units]) ⟨rfl, rfl⟩, process, named]
  rfl

theorem read_event {type data : Units} (sound : (event type data).Sound) :
    start.read (event type data).text = (start, (event type data).message.toList) := by
  have split : (event type data).text =
      (units "event: " ++ type ++ [10]) ++ ((units "data: " ++ data ++ [10]) ++ [10]) := by
    simp [text, units]
  have first : OneLine (units "event: " ++ type) := OneLine.append (by decide) sound.1
  have second : OneLine (units "data: " ++ data) := OneLine.append (by decide) sound.2
  have typed : field (units "event: " ++ type) = (units "event", type) :=
    field_colon (by decide : 58 ∉ units "event")
  have filled : field (units "data: " ++ data) = (units "data", data) :=
    field_colon (by decide : 58 ∉ units "data")
  have other : units "data" ≠ units "event" := by decide
  rw [split, read_append, read_line first (by simp [units]) ⟨rfl, rfl⟩, process, typed, read_append,
    read_line second (by simp [units]) ⟨rfl, rfl⟩, process, filled, read_blank ⟨rfl, rfl⟩]
  simp [dispatch, message, start, other]

theorem read_text (sound : frame.Sound) : start.read frame.text = (start, frame.message.toList) := by
  cases frame with
  | comment text => exact read_comment sound
  | event type data => exact read_event sound

/-- Frames are read back one by one, and nothing in one of them passes for another. -/
theorem read_frames (sound : ∀ frame ∈ frames, frame.Sound) :
    start.read (frames.flatMap text) = (start, frames.filterMap message) := by
  induction frames with
  | nil => rfl
  | cons frame rest ih =>
      rw [List.flatMap_cons, read_append, read_text (sound frame List.mem_cons_self),
        ih fun frame mem => sound frame (List.mem_cons_of_mem _ mem), List.filterMap_cons]
      cases frame.message <;> rfl

end Frame

end ServerSentEvents
