import Daq.Stream.Copy

namespace Daq.Stream

/-! The pipe of a process, read ahead by a `BufferedReader`. What has been read
ahead is no reason for the poller to report the pipe. -/

/-- What is in the pipe, and what has been read ahead of `copy_data`. -/
structure Pipe where
  unread : Bytes := []
  buffered : Bytes := []

/-- The process writes to the pipe, and the poller is asked for it. -/
inductive Activity
  | written (bytes : Bytes)
  | polled

namespace Pipe

-- How much is read from the pipe at once, which is 1024 bytes or more.
variable (bufferSize : Nat)

/-- What `read(1024)` takes its bytes from. -/
def ahead (pipe : Pipe) : Bytes :=
  if 1024 ≤ pipe.buffered.length then pipe.buffered
  else pipe.buffered ++ pipe.unread.take bufferSize

/-- `data_source.read(1024)` -/
def read (pipe : Pipe) : Data × Pipe :=
  (⟨(pipe.ahead bufferSize).take 1024, List.length_take_le _ _⟩,
    { unread := if 1024 ≤ pipe.buffered.length then pipe.unread else pipe.unread.drop bufferSize
      buffered := (pipe.ahead bufferSize).drop 1024 })

def act (pipe : Pipe) : Activity → List Data × Pipe
  | .written bytes => ([], { pipe with unread := pipe.unread ++ bytes })
  | .polled =>
      if pipe.unread = [] then ([], pipe)
      else ([(pipe.read bufferSize).1], (pipe.read bufferSize).2)

/-- The reads that are made, and the pipe after them. -/
def run : List Activity → Pipe → List Data × Pipe
  | [], pipe => ([], pipe)
  | activity :: rest, pipe =>
      ((pipe.act bufferSize activity).1 ++ (run rest (pipe.act bufferSize activity).2).1,
        (run rest (pipe.act bufferSize activity).2).2)

def content (pipe : Pipe) : Bytes := pipe.buffered ++ pipe.unread

end Pipe

def Activity.bytes : Activity → Bytes
  | .written bytes => bytes
  | .polled => []

def written (activities : List Activity) : Bytes := activities.flatMap Activity.bytes

def bytesOf (chunks : List Data) : Bytes := chunks.flatMap Subtype.val

namespace Pipe

variable {bufferSize : Nat} {pipe : Pipe}

variable (bufferSize pipe) in
theorem read_content : (pipe.read bufferSize).1.1 ++ (pipe.read bufferSize).2.content =
    pipe.content := by
  unfold read content ahead
  dsimp only
  rw [← List.append_assoc, List.take_append_drop]
  split
  · rfl
  · rw [List.append_assoc, List.take_append_drop]

theorem read_shrinks (some : pipe.unread ≠ []) (large : 1024 ≤ bufferSize) :
    (pipe.read bufferSize).2.content.length < pipe.content.length := by
  have whole := congrArg List.length (read_content bufferSize pipe)
  have waiting := List.length_pos_iff.mpr some
  have taken : 0 < (pipe.read bufferSize).1.1.length := by
    unfold read ahead
    dsimp only
    split
    · rw [List.length_take]
      omega
    · rw [List.length_take, List.length_append, List.length_take]
      omega
  rw [List.length_append] at whole
  omega

theorem act_content (activity : Activity) :
    bytesOf (pipe.act bufferSize activity).1 ++ (pipe.act bufferSize activity).2.content =
      pipe.content ++ activity.bytes := by
  cases activity with
  | written bytes =>
      change pipe.buffered ++ (pipe.unread ++ bytes) = pipe.buffered ++ pipe.unread ++ bytes
      rw [List.append_assoc]
  | polled =>
      rw [act, Activity.bytes, List.append_nil]
      split
      · rfl
      · rw [bytesOf, List.flatMap_singleton, read_content]

variable (bufferSize) in
/-- Nothing is lost on the way: it has been read, or it is in the pipe. -/
theorem run_content (activities : List Activity) (pipe : Pipe) :
    bytesOf (pipe.run bufferSize activities).1 ++ (pipe.run bufferSize activities).2.content =
      pipe.content ++ written activities := by
  induction activities generalizing pipe with
  | nil => exact (List.append_nil _).symm
  | cons activity rest later =>
      rw [run, bytesOf, List.flatMap_append, List.append_assoc]
      change bytesOf _ ++ (bytesOf _ ++ _) = _
      rw [later, ← List.append_assoc, act_content, List.append_assoc, written, written,
        List.flatMap_cons]

variable (bufferSize) in
theorem run_append (first later : List Activity) (pipe : Pipe) :
    pipe.run bufferSize (first ++ later) =
      ((pipe.run bufferSize first).1 ++ ((pipe.run bufferSize first).2.run bufferSize later).1,
        ((pipe.run bufferSize first).2.run bufferSize later).2) := by
  induction first generalizing pipe with
  | nil => rfl
  | cons activity rest later =>
      rw [List.cons_append, run, run, later]
      dsimp only
      rw [List.append_assoc]

theorem run_still (empty : pipe.unread = []) (polls : Nat) :
    pipe.run bufferSize (List.replicate polls .polled) = ([], pipe) := by
  induction polls with
  | zero => rfl
  | succ polls later =>
      have still : pipe.act bufferSize .polled = ([], pipe) := if_pos empty
      rw [List.replicate_succ, run, still, later]
      rfl

/-- As many polls as there are bytes empty the pipe. -/
theorem run_drains (large : 1024 ≤ bufferSize) {polls : Nat}
    (enough : pipe.content.length ≤ polls) :
    (pipe.run bufferSize (List.replicate polls .polled)).2.unread = [] := by
  induction polls generalizing pipe with
  | zero =>
      rw [Nat.le_zero, List.length_eq_zero_iff, content, List.append_eq_nil_iff] at enough
      exact enough.2
  | succ polls later =>
      by_cases empty : pipe.unread = []
      · rw [run_still empty]
        exact empty
      · have reads : pipe.act bufferSize .polled =
            ([(pipe.read bufferSize).1], (pipe.read bufferSize).2) := if_neg empty
        rw [List.replicate_succ, run, reads]
        have shrinks := read_shrinks empty large
        exact later (Nat.le_of_lt_succ (shrinks.trans_le enough))

end Pipe

end Daq.Stream
