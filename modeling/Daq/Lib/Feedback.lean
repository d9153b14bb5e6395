import Mathlib.Data.List.Basic

namespace Daq.Feedback

/-! A list of blocks enciphered one by one, where what comes out for a block gives the
key of the next one. -/

variable {κ β : Type} (mix : κ → β → β) (next : β → κ)

def encipher (key : κ) : List β → List β
  | [] => []
  | block :: rest => mix key block :: encipher (next (mix key block)) rest

/-- The keys come from the enciphered blocks, which are all at hand. -/
def decipher (key : κ) : List β → List β
  | [] => []
  | block :: rest => mix key block :: decipher (next block) rest

/-- What is known of the keys and the blocks stays so. -/
structure Closed (Key : κ → Prop) (Block : β → Prop) : Prop where
  mixed : ∀ key block, Key key → Block block → Block (mix key block)
  key : ∀ block, Block block → Key (next block)

variable {mix next} {Key : κ → Prop} {Block : β → Prop} {key : κ} {blocks : List β}

theorem map_encipher {μ : Type} {measure : β → μ} (closed : Closed mix next Key Block)
    (kept : ∀ key block, Key key → Block block → measure (mix key block) = measure block)
    (first : Key key) (all : ∀ block ∈ blocks, Block block) :
    (encipher mix next key blocks).map measure = blocks.map measure := by
  induction blocks generalizing key with
  | nil => rfl
  | cons block rest later =>
      obtain ⟨here, behind⟩ := List.forall_mem_cons.mp all
      have following := closed.key _ (closed.mixed key block first here)
      rw [encipher, List.map_cons, List.map_cons, kept key block first here,
        later following behind]

theorem decipher_encipher (closed : Closed mix next Key Block)
    (involutive : ∀ key block, Key key → Block block → mix key (mix key block) = block)
    (first : Key key) (all : ∀ block ∈ blocks, Block block) :
    decipher mix next key (encipher mix next key blocks) = blocks := by
  induction blocks generalizing key with
  | nil => rfl
  | cons block rest later =>
      obtain ⟨here, behind⟩ := List.forall_mem_cons.mp all
      have following := closed.key _ (closed.mixed key block first here)
      rw [encipher, decipher, involutive key block first here, later following behind]

end Daq.Feedback
