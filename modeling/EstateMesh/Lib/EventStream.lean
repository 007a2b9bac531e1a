import Mathlib.Data.List.Basic
import Mathlib.Data.List.TakeDrop

/-!
# Event streams

The text format `text/event-stream` as its readers see it.  A stream is made of lines, which
say something about the next message or are comments, and a blank line completes a message.
The reader takes one character at a time, so it does not matter where a stream is cut.

Messages and comments that are written in the plainest way, each part on a line of its own,
are read back as they are (`Reader.run_frame`).
-/

namespace Lib.EventStream

/-- A message. -/
structure Message where
  eventType : List Char
  data : List Char
deriving DecidableEq, Repr

/-! ## Reading -/

/-- A reader: what it has of the present line and of the present message, and the messages
that are complete. -/
structure Reader where
  line : List Char := []
  /-- The last line ended with a carriage return, and a newline would belong to that. -/
  afterReturn : Bool := false
  eventType : List Char := []
  data : List (List Char) := []
  messages : List Message := []

namespace Reader

/-- The name and the value of a field; one space before the value does not count. -/
def splitField (line : List Char) : List Char × List Char :=
  let value := (line.dropWhile (· ≠ ':')).tail
  (line.takeWhile (· ≠ ':'), if value.head? = some ' ' then value.tail else value)

/-- A blank line. -/
def dispatch (r : Reader) : Reader :=
  { messages :=
      if r.data = [] then r.messages
      else
        r.messages ++
          [⟨if r.eventType = [] then "message".toList else r.eventType,
            ['\n'].intercalate r.data⟩] }

/-- A line that says something. -/
def field (r : Reader) (line : List Char) : Reader :=
  let r := { r with line := [] }
  let (name, value) := splitField line
  if name = "data".toList then { r with data := r.data ++ [value] }
  else if name = "event".toList then { r with eventType := value }
  else r

/-- A line is complete. -/
def endLine (r : Reader) : Reader :=
  if r.line = [] then r.dispatch
  else if r.line.head? = some ':' then { r with line := [] }
  else r.field r.line

/-- One character. -/
def step (r : Reader) (c : Char) : Reader :=
  if c = '\n' then
    if r.afterReturn then { r with afterReturn := false } else r.endLine
  else if c = '\r' then { r.endLine with afterReturn := true }
  else { r with line := r.line ++ [c], afterReturn := false }

/-- Some characters. -/
def run (r : Reader) (text : List Char) : Reader := text.foldl step r

end Reader

/-! ## Writing -/

/-- A text that is on one line. -/
def IsLine (text : List Char) : Prop := ∀ c ∈ text, c ≠ '\n' ∧ c ≠ '\r'

instance (text : List Char) : Decidable (IsLine text) :=
  List.decidableBAll _ text

theorem isLine_append {text text' : List Char} : IsLine (text ++ text') ↔ IsLine text ∧ IsLine text' :=
  List.forall_mem_append

/-- What a stream is made of. -/
inductive Frame
  | message (m : Message)
  | comment (text : List Char)

namespace Frame

/-- The lines of a frame. -/
def lines : Frame → List (List Char)
  | message m =>
      ["event".toList ++ ": ".toList ++ m.eventType, "data".toList ++ ": ".toList ++ m.data, []]
  | comment text => [':' :: text, []]

/-- The text of a frame. -/
def text (f : Frame) : List Char := f.lines.flatMap (· ++ ['\n'])

/-- The message of a frame. -/
def message? : Frame → Option Message
  | message m => some m
  | comment _ => none

/-- Each part of a frame is on one line, and a message has a type. -/
def IsPlain : Frame → Prop
  | message m => m.eventType ≠ [] ∧ IsLine m.eventType ∧ IsLine m.data
  | comment text => IsLine text

end Frame

/-! ## Reading what was written -/

variable {r : Reader} {text : List Char}

theorem Reader.run_append (r : Reader) (text text' : List Char) :
    r.run (text ++ text') = (r.run text).run text' := List.foldl_append

/-- The characters of a line. -/
theorem Reader.run_isLine (hreturn : r.afterReturn = false) (h : IsLine text) :
    r.run text = { r with line := r.line ++ text } := by
  induction text generalizing r with
  | nil => rw [List.append_nil]; rfl
  | cons c text ih =>
      obtain ⟨⟨hnewline, hcarriage⟩, htext⟩ := List.forall_mem_cons.mp h
      have hstep : r.step c = { r with line := r.line ++ [c], afterReturn := false } := by
        rw [step, if_neg hnewline, if_neg hcarriage]
      show (r.step c).run text = _
      rw [hstep, ih rfl htext, hreturn, List.append_assoc, List.singleton_append]

/-- A line and its end. -/
theorem Reader.run_line (hreturn : r.afterReturn = false) (hline : r.line = []) (h : IsLine text) :
    r.run (text ++ ['\n']) = { r with line := text }.endLine := by
  rw [run_append, run_isLine hreturn h, hline, List.nil_append]
  show (if r.afterReturn then _ else _) = _
  rw [hreturn]
  rfl

theorem Reader.splitField_append {name value : List Char} (hname : ':' ∉ name) :
    splitField (name ++ ": ".toList ++ value) = (name, value) := by
  have hall : ∀ c ∈ name, decide (c ≠ ':') = true := fun c hc ↦
    decide_eq_true fun heq ↦ hname (heq ▸ hc)
  rw [splitField, List.append_assoc, List.dropWhile_append_of_pos hall,
    List.takeWhile_append_of_pos hall]
  exact Prod.ext (List.append_nil name) rfl

/-- A field on a line of its own. -/
theorem Reader.run_field {name value eventType : List Char} {data : List (List Char)}
    {messages : List Message} (hname : name ≠ [] ∧ ':' ∉ name ∧ IsLine name)
    (hvalue : IsLine value) :
    run { eventType := eventType, data := data, messages := messages }
        (name ++ ": ".toList ++ value ++ ['\n']) =
      if name = "data".toList then
        { eventType := eventType, data := data ++ [value], messages := messages }
      else if name = "event".toList then
        { eventType := value, data := data, messages := messages }
      else { eventType := eventType, data := data, messages := messages } := by
  obtain ⟨hne, hcolon, hname⟩ := hname
  have hfield : IsLine (name ++ ": ".toList ++ value) :=
    isLine_append.mpr ⟨isLine_append.mpr ⟨hname, by decide⟩, hvalue⟩
  have hhead : (name ++ ": ".toList ++ value).head? ≠ some ':' := by
    obtain ⟨c, rest, rfl⟩ := List.exists_cons_of_ne_nil hne
    exact fun h ↦ hcolon (Option.some.inj h ▸ List.mem_cons_self)
  have hnonempty : name ++ ": ".toList ++ value ≠ [] := by simp [hne]
  rw [run_line rfl rfl hfield, endLine, if_neg hnonempty, if_neg hhead, field,
    splitField_append hcolon]

/-- A blank line after a message. -/
theorem Reader.run_blank {eventType data : List Char} (htype : eventType ≠ [])
    (messages : List Message) :
    run { eventType := eventType, data := [data], messages := messages } ['\n'] =
      { messages := messages ++ [⟨eventType, data⟩] } := by
  show dispatch { eventType := eventType, data := [data], messages := messages } = _
  simp [dispatch, htype, List.intercalate]

/-- A frame between messages. -/
theorem Reader.run_frame {f : Frame} (h : f.IsPlain) (messages : List Message) :
    run { messages := messages } f.text = { messages := messages ++ f.message?.toList } := by
  cases f with
  | message m =>
      obtain ⟨htype, htypeLine, hdata⟩ := h
      rw [Frame.text, Frame.lines, List.flatMap_cons, run_append,
        run_field (by decide) htypeLine, if_neg (by decide), if_pos rfl, List.flatMap_cons,
        run_append, run_field (by decide) hdata, if_pos rfl]
      exact run_blank htype messages
  | comment text =>
      have hline : IsLine (':' :: text) := List.forall_mem_cons.mpr ⟨by decide, h⟩
      have hcomment : run { messages := messages } (':' :: text ++ ['\n']) =
          { messages := messages } := by
        rw [run_line rfl rfl hline]
        rfl
      rw [Frame.text, Frame.lines, List.flatMap_cons, run_append, hcomment, Frame.message?,
        Option.toList_none, List.append_nil]
      rfl

end Lib.EventStream
