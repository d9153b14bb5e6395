import Daq.Lib.Utf8
import Daq.Stream.External

namespace Daq.Stream

/-! The output of a process, copied to a file read by read. -/

/-- What one `read(1024)` returns. -/
abbrev Data := { data : Bytes // data.length ≤ 1024 }

/-- A stream that is copied, with whoever started the process and the exceptions
that its error handler has been called with. -/
structure Copying (σ : Type) where
  dataSink : List Char := []
  owner : σ
  handled : List Exc := []

namespace Copying

section Reads

variable {σ : Type} (handler : Exc → σ → σ) (monitored : σ → Bool)

def unicodeDecodeError : Exc := .valueError "'utf-8' codec can't decode bytes"

/-- Function to just copy data to a given sink. -/
def copyData (data : Data) : Exec (Copying σ) Exc Unit :=
  match Utf8.decode data.1 with
  | none => Exec.raise unicodeDecodeError
  | some text => Exec.modify fun copying => { copying with dataSink := copying.dataSink ++ text }

/-- Call given error handler. -/
def errorHandler (exception : Exc) : Exec (Copying σ) Exc Unit :=
  Exec.modify fun copying =>
    { copying with
      owner := handler exception copying.owner
      handled := copying.handled ++ [exception] }

/-- There is data for the stream, if it is still monitored. -/
def triggerCallback (data : Data) : Exec (Copying σ) Exc Unit := do
  let copying ← Exec.get
  Exec.when (monitored copying.owner = true)
    (Exec.attempt (copyData data) (errorHandler handler))

def read (copying : Copying σ) (data : Data) : Copying σ :=
  ((triggerCallback handler monitored data).run copying).2

def reads (chunks : List Data) (copying : Copying σ) : Copying σ :=
  chunks.foldl (read handler monitored) copying

variable {handler monitored} {copying : Copying σ} {chunks : List Data}

theorem read_decoded {data : Data} {text : List Char} (open_ : monitored copying.owner = true)
    (decoded : Utf8.decode data.1 = some text) :
    read handler monitored copying data =
      { copying with dataSink := copying.dataSink ++ text } := by
  unfold read triggerCallback copyData
  rw [Exec.get_bind_run, open_, decoded]
  rfl

theorem read_undecodable {data : Data} (open_ : monitored copying.owner = true)
    (undecodable : Utf8.decode data.1 = none) :
    (read handler monitored copying data).handled = copying.handled ++ [unicodeDecodeError] := by
  unfold read triggerCallback copyData
  rw [Exec.get_bind_run, open_, undecodable]
  rfl

theorem handled_prefix_read (data : Data) :
    copying.handled <+: (read handler monitored copying data).handled := by
  cases open_ : monitored copying.owner with
  | false =>
      unfold read triggerCallback
      rw [Exec.get_bind_run, open_]
      exact List.prefix_refl _
  | true =>
      cases decoded : Utf8.decode data.1 with
      | none =>
          rw [read_undecodable open_ decoded]
          exact List.prefix_append _ _
      | some text =>
          rw [read_decoded open_ decoded]

variable (handler monitored) in
theorem handled_prefix_reads (chunks : List Data) (copying : Copying σ) :
    copying.handled <+: (reads handler monitored chunks copying).handled := by
  induction chunks generalizing copying with
  | nil => exact List.prefix_refl _
  | cons data rest later => exact (handled_prefix_read data).trans (later _)

/-- Reads of whole characters are copied. -/
theorem reads_decoded {pieces : List (List Char)} (open_ : monitored copying.owner = true)
    (decoded : chunks.map Subtype.val = pieces.map Utf8.encode) :
    reads handler monitored chunks copying =
      { copying with dataSink := copying.dataSink ++ pieces.flatten } := by
  induction chunks generalizing copying pieces with
  | nil =>
      rw [List.map_nil, eq_comm, List.map_eq_nil_iff] at decoded
      rw [decoded, List.flatten_nil, List.append_nil]
      rfl
  | cons data rest later =>
      rw [List.map_cons, eq_comm, List.map_eq_cons_iff] at decoded
      obtain ⟨piece, behind, rfl, first, decoded⟩ := decoded
      have here : Utf8.decode data.1 = some piece := Utf8.decode_eq_some_iff.mpr first.symm
      have opened : monitored ({ copying with dataSink := copying.dataSink ++ piece } :
          Copying σ).owner = true := open_
      change reads handler monitored rest (read handler monitored copying data) = _
      rw [read_decoded open_ here, later opened decoded.symm, List.flatten_cons,
        List.append_assoc]

/-- Where no read fails, each one is of whole characters. -/
theorem decoded_of_reads (open_ : monitored copying.owner = true)
    (unhandled : (reads handler monitored chunks copying).handled = []) :
    ∃ pieces : List (List Char), chunks.map Subtype.val = pieces.map Utf8.encode := by
  induction chunks generalizing copying with
  | nil => exact ⟨[], rfl⟩
  | cons data rest later =>
      change (reads handler monitored rest (read handler monitored copying data)).handled = []
        at unhandled
      cases decoded : Utf8.decode data.1 with
      | none =>
          have handled := handled_prefix_reads handler monitored rest
            (read handler monitored copying data)
          rw [unhandled, read_undecodable open_ decoded, List.prefix_nil] at handled
          exact absurd handled (List.append_ne_nil_of_right_ne_nil _ (List.cons_ne_nil _ _))
      | some text =>
          have opened : monitored ({ copying with dataSink := copying.dataSink ++ text } :
              Copying σ).owner = true := open_
          rw [read_decoded open_ decoded] at unhandled
          obtain ⟨pieces, behind⟩ := later opened unhandled
          refine ⟨text :: pieces, ?_⟩
          rw [List.map_cons, List.map_cons, behind, Utf8.decode_eq_some_iff.mp decoded]

/-- What is copied is the text, without a call of the error handler, exactly if
every read ends at the end of a character. -/
theorem reads_copied_iff {owner : σ} (open_ : monitored owner = true) {text : List Char}
    (whole : (chunks.map Subtype.val).flatten = Utf8.encode text) :
    ((reads handler monitored chunks { owner }).dataSink = text ∧
        (reads handler monitored chunks { owner }).handled = []) ↔
      Utf8.CutAtCharacters text (chunks.map Subtype.val) := by
  have opened : monitored ({ owner } : Copying σ).owner = true := open_
  rw [Utf8.cutAtCharacters_iff whole]
  constructor
  · rintro ⟨sink, unhandled⟩
    obtain ⟨pieces, decoded⟩ := decoded_of_reads opened unhandled
    rw [reads_decoded opened decoded] at sink
    exact ⟨pieces, decoded, sink⟩
  · rintro ⟨pieces, decoded, rfl⟩
    rw [reads_decoded opened decoded]
    exact ⟨List.nil_append _, rfl⟩

end Reads

/-! The output of a test module, whose error handler ends the module. -/

/-- All steps of ending a module succeed. -/
def ended (exception : Exc) (module : ExternalModule) : ExternalModule :=
  (Occurrence.output (some exception) {} none).step module

/-- Reads of a module's output. -/
def moduleReads (chunks : List Data) : Copying ExternalModule :=
  reads ended ExternalModule.monitored chunks { owner := {} }

namespace Sample

def accent : List Char := ['c', 'a', 'f', 'é']

theorem cut_fits : ([99, 97, 102, 195] : Bytes).length ≤ 1024 := by decide

theorem rest_fits : ([169] : Bytes).length ≤ 1024 := by decide

theorem accent_fits : (Utf8.encode accent).length ≤ 1024 := by decide

theorem menu_fits : (Utf8.encode ['\n', '€', '4', '\n']).length ≤ 1024 := by decide

/-- Three reads, none of which ends within a character. -/
def menu : List Data :=
  [⟨Utf8.encode accent, accent_fits⟩, ⟨Utf8.encode ['\n', '€', '4', '\n'], menu_fits⟩,
    ⟨Utf8.encode accent, accent_fits⟩]

def menuText : List Char := accent ++ ['\n', '€', '4', '\n'] ++ accent

/-- The last character has two bytes. -/
def cut : List Data := [⟨[99, 97, 102, 195], cut_fits⟩, ⟨[169], rest_fits⟩]

theorem menu_copied :
    (moduleReads menu).dataSink = menuText ∧ (moduleReads menu).handled = [] := by
  have whole : (menu.map Subtype.val).flatten = Utf8.encode menuText := by decide
  refine (reads_copied_iff rfl whole).mpr ((Utf8.cutAtCharacters_iff whole).mpr ?_)
  exact ⟨[accent, ['\n', '€', '4', '\n'], accent], by decide, by decide⟩

theorem cut_not_copied : ¬ ∀ (text : List Char) (chunks : List Data),
    (chunks.map Subtype.val).flatten = Utf8.encode text →
      (moduleReads chunks).dataSink = text ∧ (moduleReads chunks).handled = [] := by
  intro copied
  have sink := (copied accent cut (by decide)).1
  have nothing : (moduleReads cut).dataSink = [] := by decide +kernel
  rw [nothing] at sink
  cases sink

end Sample

end Copying

end Daq.Stream
