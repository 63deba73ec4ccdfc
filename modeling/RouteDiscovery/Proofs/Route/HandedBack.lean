/-
# Replies that are handed back

A reply that cannot be built offers its number back to the store.  The store takes a number back if
its value follows that number, and so it infers from the value that nothing was taken since.  When
others have taken numbers in the meantime, and kept them, the value follows the number of the reply
again as often as they have gone all the way round the cycle (`Store.release_past`).

`ReplyMaker.hands_back_iff` says this of the replies of any writer: the store steps back to the
number of a failed reply exactly if the others have taken a multiple of 65535 numbers since.  If that
is none, nobody else has the number; and otherwise one of the others has it, and it is handed out
again.
-/
import Mathlib.Algebra.GroupWithZero.Nat
import RouteDiscovery.Proofs.Route.ReplyBuilds
import RouteDiscovery.Proofs.Route.Sends

namespace RouteDiscovery

open Wire MessageWriter

namespace Store

/-- The store when this many numbers were taken from it. -/
def past (s : Store) (count : ℕ) : Store := ⟨SeqNum.next^[count] s.value⟩

/-- Taking numbers one after another. -/
lemma run_reserves (s : Store) (count : ℕ) :
    (s.run (List.replicate count .reserve)).state = s.past count ∧
      (s.run (List.replicate count .reserve)).answer =
        (List.range count).map fun i => .number (s.past i).value := by
  induction count generalizing s with
  | zero => exact ⟨rfl, rfl⟩
  | succ count ih =>
    obtain ⟨hstate, hanswer⟩ := ih s.advance
    refine ⟨hstate, ?_⟩
    rw [List.range_succ_eq_map, List.map_cons, List.map_map]
    exact congrArg (Answer.number s.value :: ·) hanswer

/-- Handing a number back steps back whenever the numbers taken after it have gone round. -/
lemma release_past (s : Store) (count : ℕ) :
    (((s.advance.past count).release s.value).answer = true ↔ 65535 ∣ count) ∧
      ((s.advance.past count).release s.value).state =
        if 65535 ∣ count then s else s.advance.past count := by
  have hfollows : (s.advance.past count).follows s.value = true ↔ 65535 ∣ count := by
    have hmod := SeqNum.iterate_next_eq_iff s.value.next_ne_unknown (i := count) (j := 0)
    rw [follows_iff, Nat.dvd_iff_mod_eq_zero]
    exact hmod
  exact ⟨hfollows, if_congr hfollows rfl rfl⟩

end Store

namespace ReplyMaker

open RouteMessage

/-- Others take this many numbers before each call of the reply, and keep them. -/
def taking (counts : List ℕ) : List (List Store.Op) := counts.map (List.replicate · .reserve)

lemma flatten_taking (counts : List ℕ) :
    (taking counts).flatten = List.replicate counts.sum .reserve := by
  induction counts with
  | nil => rfl
  | cons count counts ih =>
    rw [List.sum_cons, List.replicate_add, ← ih]
    rfl

variable {config : WriterConfig} {maker : ReplyMaker} {data : RouteData} {counts : List ℕ}
  {e : WireError}

/-- The last callback of a reply that could not be built finds the store as many numbers past its
own as the others have taken. -/
lemma AtRest.failed (h : maker.AtRest config)
    (hregistered : maker.writer.width? RouteMessage.reply.type ≠ none)
    (hfailed : (maker.made data (taking counts)).result = .error e) :
    let issued := maker.numbers.store.value
    let before := maker.numbers.store.advance.past counts.sum
    maker.notes data (taking counts) =
        [⟨.header, maker.numbers⟩, ⟨.addresses, maker.numbers⟩, ⟨.abort, before, some issued⟩] ∧
      (maker.made data (taking counts)).context =
        { store := if 65535 ∣ counts.sum then maker.numbers.store else before } := by
  intro issued before
  have hbefore : (maker.numbers.store.advance.run (taking counts).flatten).state = before := by
    rw [flatten_taking, (Store.run_reserves _ _).1]
  obtain ⟨hnotes, -, hback⟩ := h.registered data (taking counts) hregistered
  obtain ⟨hcontext, -⟩ := hback e hfailed
  rw [hfailed, hbefore] at hnotes
  rw [hbefore, (Store.release_past _ _).2] at hcontext
  exact ⟨hnotes, hcontext⟩

/-- **A failed reply is handed back if the others have gone round.**  Take any writer that can be
reached and any store, and a reply that cannot be built, while others take numbers from the store and
keep them.  Then the reply offers its own number back, and the store is past it by as many numbers
as the others have taken.  The store steps back to the number of the reply exactly if this is a
multiple of 65535.  If it is not, the store keeps its value.  And if it is, but is not zero, then one
of the others has the number that the store steps back to, unless this is the unknown one. -/
theorem hands_back_iff (config : WriterConfig) (start : Store) (steps : List Step)
    (data : RouteData) (counts : List ℕ) (e : WireError)
    (hregistered : (after config start steps).writer.width? RouteMessage.reply.type ≠ none)
    (hfailed : ((after config start steps).made data (taking counts)).result = .error e) :
    let maker := after config start steps
    let issued := maker.numbers.store.value
    let before := maker.numbers.store.advance.past counts.sum
    let taken := (maker.numbers.store.advance.run (taking counts).flatten).answer
    maker.notes data (taking counts) =
        [⟨.header, maker.numbers⟩, ⟨.addresses, maker.numbers⟩, ⟨.abort, before, some issued⟩] ∧
      taken = (List.range counts.sum).map
        (fun i => .number (maker.numbers.store.advance.past i).value) ∧
      ((before.release issued).answer = true ↔ 65535 ∣ counts.sum) ∧
      (maker.made data (taking counts)).context =
        { store := if 65535 ∣ counts.sum then maker.numbers.store else before } ∧
      (0 < counts.sum → 65535 ∣ counts.sum → issued ≠ SeqNum.unknown →
        .number issued ∈ taken) := by
  intro maker issued before taken
  have hrest : maker.AtRest config := atRest_after config start steps
  obtain ⟨hnotes, hcontext⟩ := hrest.failed hregistered hfailed
  have htaken : taken = (List.range counts.sum).map
      fun i => .number (maker.numbers.store.advance.past i).value := by
    show (maker.numbers.store.advance.run (taking counts).flatten).answer = _
    rw [flatten_taking, (Store.run_reserves _ _).2]
  refine ⟨hnotes, htaken, (maker.numbers.store.release_past counts.sum).1, hcontext, ?_⟩
  intro hpos hround hknown
  -- the last number that the others took is the one of the reply
  obtain ⟨last, hlast⟩ := Nat.exists_eq_add_of_lt hpos
  rw [Nat.zero_add] at hlast
  have hvalue : SeqNum.next^[last + 1] issued = SeqNum.next^[0] issued := by
    rw [SeqNum.iterate_next_eq_iff hknown, ← hlast]
    exact Nat.mod_eq_zero_of_dvd hround
  rw [htaken]
  exact List.mem_map.2 ⟨last, List.mem_range.2 (by omega), congrArg Store.Answer.number hvalue⟩

/-- The steps that prepare a writer for replies. -/
def preparation : List Step :=
  [.write (.registerProvider RouteMessage.reply.type RouteMessage.reply.table),
    .write (.registerMessage RouteMessage.reply.type nodeAddressLength)]

/-- With room for three bytes of TLVs a reply fails at its second TLV, whatever the others do. -/
lemma result_cramped (start : Store) (others : List (List Store.Op)) :
    ((after { addrTlvSize := 3 } start preparation).made RouteSender.sampleData others).result =
      .error (.capacity .addressTlv 2 1) := by
  have hrest := atRest_after { addrTlvSize := 3 } start preparation
  obtain ⟨w, hwriter, hmade, -⟩ := hrest.made_eq
  rw [hmade, result_replyAmid, ← hwriter]
  rfl

/-- When the others have gone round, the store steps back from 2 to 1, and one of the others
has 1. -/
theorem handed_back_after_a_round :
    let maker := after { addrTlvSize := 3 } ⟨1⟩ preparation
    maker.numbers.store.advance.past [65535].sum = ⟨2⟩ ∧
      (maker.made RouteSender.sampleData (taking [65535])).context = { store := ⟨1⟩ } ∧
      .number 1 ∈ (maker.numbers.store.advance.run (taking [65535]).flatten).answer := by
  intro maker
  obtain ⟨-, -, -, hcontext, htaken⟩ := hands_back_iff { addrTlvSize := 3 } ⟨1⟩ preparation
    RouteSender.sampleData [65535] (.capacity .addressTlv 2 1) (Option.some_ne_none 16)
    (result_cramped ⟨1⟩ _)
  have hround : 65535 ∣ [65535].sum := ⟨1, rfl⟩
  have hbefore : SeqNum.next^[[65535].sum] (2 : SeqNum) = SeqNum.next^[0] 2 :=
    (SeqNum.iterate_next_eq_iff (by decide)).2 (Nat.mod_eq_zero_of_dvd hround)
  rw [if_pos hround] at hcontext
  exact ⟨congrArg Store.mk hbefore, hcontext, htaken (by decide) hround (by decide)⟩

/-- It is not so that the store steps back only if nothing was taken since, and keeps its value
otherwise. -/
theorem not_only_the_last_handed_back :
    ¬ ∀ (config : WriterConfig) (start : Store) (steps : List Step) (data : RouteData)
        (counts : List ℕ) (e : WireError),
      let maker := after config start steps
      let issued := maker.numbers.store.value
      let before := maker.numbers.store.advance.past counts.sum
      maker.writer.width? RouteMessage.reply.type ≠ none →
      (maker.made data (taking counts)).result = .error e →
        ((before.release issued).answer = true ↔ counts.sum = 0) ∧
          (1 ≤ counts.sum → (maker.made data (taking counts)).context.store = before) := by
  intro h
  obtain ⟨hback, -⟩ := h { addrTlvSize := 3 } ⟨1⟩ preparation RouteSender.sampleData [65535]
    (.capacity .addressTlv 2 1) (Option.some_ne_none 16) (result_cramped ⟨1⟩ _)
  have hnone := hback.1 ((Store.release_past _ [65535].sum).1.2 ⟨1, rfl⟩)
  exact absurd hnone (by decide)

end ReplyMaker

end RouteDiscovery
