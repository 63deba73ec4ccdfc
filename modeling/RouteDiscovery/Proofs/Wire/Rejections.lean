/-
# Rejected calls leave no trace

A provider may go on after a call of its was rejected.  The message that it makes is then the one
that it makes without this call.

* `Draft.answerInPlace` carries a call out on the draft as it lies in memory, where what was changed
  before a failure stays.  A call that is rejected has changed nothing by then, so this is the same
  as carrying it out on a copy (`Draft.run_answerInPlace`).
* `Script.run_accepted`: the draft that a script leaves is left by its accepted calls alone, and
  they are answered as they were.
* `ReusingWriter.rejections_erasable` says this of the messages of every writer that can be reached:
  the accepted calls are answered alike, and the same bytes are appended or the same error is
  reported.
-/
import RouteDiscovery.Proofs.Wire.CallbackOrder
import RouteDiscovery.Proofs.Wire.PassingOn
import RouteDiscovery.Proofs.Wire.Capacity

namespace RouteDiscovery.Wire

open CallRecord CallbackScript MessageWriter

variable {σ ρ α : Type}

/-! ## Calls in place -/

namespace Draft

/-- Work on a draft that may fail; what was done before the failure stays. -/
abbrev InPlace (α : Type) := ExceptT WireError (StateM Draft) α

/-- Puts a value into the arena. -/
def InPlace.store (value : List UInt8) : Draft.InPlace Unit := ExceptT.mk fun d =>
  let (r, arena) := (Wire.InPlace.write [.ok value]).run.run d.arena
  (r, { d with arena })

/-- Adds an address and gives its index. -/
def InPlace.addAddress (addr : NetAddr) (mandatory : Bool) : Draft.InPlace ℕ := do
  let d ← get
  if addr.length ≠ d.width then throw (.addressLength d.width addr.length)
  match d.indexOf? addr with
  | some index =>
    modify (·.mark index mandatory)
    return index
  | none =>
    if maxAddresses ≤ d.addresses.length then throw .tooManyAddresses
    modify fun d => { d with addresses := d.addresses ++ [⟨addr, mandatory⟩] }
    return (← get).addresses.length - 1

/-- Adds a TLV to the address at an index. -/
def InPlace.addTlv (index : ℕ) (type : TlvType) (value : List UInt8) (allowDuplicate : Bool) :
    Draft.InPlace Unit := do
  let d ← get
  let position ← match d.positionOf? type with
    | none => throw (.undeclaredTlv type.kind)
    | some position => pure position
  if d.addresses.length ≤ index then throw (.unknownAddress index)
  if maxTlvValueLength < value.length then throw (.tlvValueTooLong value.length)
  if d.hasTlv position index && !allowDuplicate then throw (.duplicateTlv type.kind index)
  let start := d.arena.length
  store value
  modify fun d => { d with entries := d.entries ++ [⟨position, index, start, value.length⟩] }

/-- Carries out a call and answers it. -/
def answerInPlace : (c : Call) → StateM Draft c.Answer
  | .setFlags flags => modify (·.setHeader fun h => { h with flags })
  | .setHopLimit n => modify (·.setHeader fun h => { h with hopLimit := some n })
  | .setHopCount n => modify (·.setHeader fun h => { h with hopCount := some n })
  | .setOriginator addr => modify (·.setHeader fun h => { h with originator := some addr })
  | .setSeqNum n => modify (·.setHeader fun h => { h with seqNum := some n })
  | .addAddress addr mandatory => (InPlace.addAddress addr mandatory).run
  | .addTlv index type value allowDuplicate => (InPlace.addTlv index type value allowDuplicate).run
  | .addressCount => do return (← get).addresses.length

/-- Work that looks at the draft first. -/
lemma InPlace.run_get (d : Draft) (f : Draft → Draft.InPlace α) :
    (get >>= f).run.run d = (f d).run.run d := rfl

lemma InPlace.run_addAddress (d : Draft) (addr : NetAddr) (mandatory : Bool) :
    (InPlace.addAddress addr mandatory).run.run d = d.answer (.addAddress addr mandatory) := by
  rw [InPlace.addAddress, run_get]
  simp only [Draft.answer, Draft.addAddress]
  by_cases hwidth : addr.length ≠ d.width
  · rw [if_pos hwidth, if_pos hwidth]
    rfl
  rw [if_neg hwidth, if_neg hwidth]
  cases d.indexOf? addr with
  | some index => rfl
  | none =>
    by_cases hfull : maxAddresses ≤ d.addresses.length
    · simp only [if_pos hfull]
      rfl
    · simp only [if_neg hfull]
      -- the new address is the last
      have hlast : (d.addresses ++ [DraftAddress.mk addr mandatory]).length - 1 =
          d.addresses.length := by
        rw [List.length_append]
        rfl
      exact Prod.ext (congrArg Except.ok hlast) rfl

/-- A value that has no room is not put into the arena, not even in part. -/
lemma InPlace.run_store (d : Draft) (value : List UInt8) :
    (InPlace.store value).run.run d = match d.arena.put value with
      | .ok arena => (.ok (), { d with arena })
      | .error e => (.error e, d) := by
  have hstore : (InPlace.store value).run.run d =
      ((d.arena.write [.ok value]).1, { d with arena := (d.arena.write [.ok value]).2 }) := rfl
  rw [hstore, Buffer.write]
  cases d.arena.put value <;> rfl

lemma InPlace.run_addTlv (d : Draft) (index : ℕ) (type : TlvType) (value : List UInt8)
    (allowDuplicate : Bool) :
    (InPlace.addTlv index type value allowDuplicate).run.run d =
      d.answer (.addTlv index type value allowDuplicate) := by
  rw [InPlace.addTlv, run_get]
  simp only [Draft.answer, Draft.addTlv]
  cases d.positionOf? type with
  | none => rfl
  | some position =>
    simp only [pure_bind]
    by_cases hindex : d.addresses.length ≤ index
    · simp only [if_pos hindex]
      rfl
    by_cases hlong : maxTlvValueLength < value.length
    · simp only [if_neg hindex, if_pos hlong]
      rfl
    by_cases hduplicate : (d.hasTlv position index && !allowDuplicate) = true
    · simp only [if_neg hindex, if_neg hlong, if_pos hduplicate]
      rfl
    simp only [if_neg hindex, if_neg hlong, if_neg hduplicate]
    have hstore := run_store d value
    rw [ExceptT.run_bind, StateT.run_bind, hstore]
    cases d.arena.put value <;> rfl

/-- **Nothing is changed before a call is rejected.**  Carrying a call out in place gives the answer
and the draft that it gives on a copy, which is thrown away if the call is rejected. -/
theorem run_answerInPlace (d : Draft) (c : Call) : (answerInPlace c).run d = d.answer c := by
  cases c with
  | addAddress addr mandatory => exact InPlace.run_addAddress d addr mandatory
  | addTlv index type value allowDuplicate =>
    exact InPlace.run_addTlv d index type value allowDuplicate
  | _ => rfl

/-- A call that is rejected leaves the draft. -/
lemma answer_of_rejected {d : Draft} {c : Call} {e : WireError}
    (h : rejection? ⟨c, (d.answer c).1⟩ = some e) : (d.answer c).2 = d := by
  cases c with
  | addAddress addr mandatory =>
    simp only [Draft.answer] at h ⊢
    cases hadd : d.addAddress addr mandatory with
    | error e => rfl
    | ok added => exact absurd h (by simp [hadd, rejection?])
  | addTlv index type value allowDuplicate =>
    simp only [Draft.answer] at h ⊢
    cases hadd : d.addTlv index type value allowDuplicate with
    | error e => rfl
    | ok added => exact absurd h (by simp [hadd, rejection?])
  | _ => exact absurd h (by simp [rejection?])

end Draft

/-! ## Scripts -/

/-- The calls that were accepted. -/
abbrev CallRecord.accepted (calls : List CallRecord) : List CallRecord :=
  calls.filter (·.rejection?.isNone)

namespace Script

/-- Makes calls, one after another, whatever they are answered. -/
def making : List Call → Script σ Unit
  | [] => done ()
  | c :: cs => call c fun _ => making cs

lemma making_append (cs ds : List Call) :
    (making (cs ++ ds) : Script σ Unit) = (making cs).bind fun _ => making ds := by
  induction cs with
  | nil => rfl
  | cons c cs ih =>
    simp only [List.cons_append, making, Script.bind, ih]

/-- **The accepted calls of a script make its draft.**  Made alone, they are answered as they were,
and they leave the draft that the script leaves. -/
theorem run_accepted (script : Script σ α) (s : Session σ) :
    ∃ made, (script.run s).2.calls = s.calls ++ made ∧
      ∀ t : Session ρ, t.draft = s.draft →
        (making ((accepted made).map (·.call))).run t =
          ((), { t with
            draft := (script.run s).2.draft
            calls := t.calls ++ accepted made }) := by
  induction script generalizing s with
  | done a =>
    refine ⟨[], (List.append_nil _).symm, fun t ht => ?_⟩
    obtain ⟨draft, context, calls, events⟩ := t
    obtain rfl : draft = s.draft := ht
    simp [making, run, accepted]
  | call c next ih =>
    obtain ⟨made, hcalls, hmade⟩ := ih (s.draft.answer c).1
      { s with draft := (s.draft.answer c).2, calls := s.calls ++ [⟨c, (s.draft.answer c).1⟩] }
    refine ⟨⟨c, (s.draft.answer c).1⟩ :: made, hcalls.trans (List.append_assoc _ _ _), ?_⟩
    intro t ht
    cases hrejection : rejection? ⟨c, (s.draft.answer c).1⟩ with
    | some e =>
      -- the call is left out, and the draft is as it was before the call
      rw [accepted, List.filter_cons_of_neg (by simp [hrejection])]
      exact hmade t (ht.trans (Draft.answer_of_rejected hrejection).symm)
    | none =>
      rw [accepted, List.filter_cons_of_pos (by simp [hrejection])]
      refine (hmade { t with
        draft := (t.draft.answer c).2
        calls := t.calls ++ [⟨c, (t.draft.answer c).1⟩] } (by rw [ht])).trans ?_
      rw [ht, List.append_assoc]
      rfl
  | read next ih => exact ih s.context s
  | write context next ih => exact ih { s with context }
  | emit e next ih => exact ih { s with events := e :: s.events }

end Script

/-! ## Providers that go on -/

namespace ContentProvider

/-- The provider whose callbacks do something else and never fail. -/
def goingOn (p : ContentProvider σ) (header addresses : Script σ Unit) : ContentProvider σ :=
  { p with addHeader := ExceptT.lift header, addAddresses := ExceptT.lift addresses }

/-- The provider that makes some calls and does nothing else. -/
def making (type : MsgType) (header addresses : List Call) : ContentProvider Unit :=
  goingOn { type, addHeader := pure (), addAddresses := pure () } (.making header)
    (.making addresses)

end ContentProvider

namespace MessageWriter

lemma compose_goingOn (p : ContentProvider σ) (header addresses : Script σ Unit) (s : Session σ) :
    compose (p.goingOn header addresses) s = (.ok (), [.header, .addresses],
      ((header.bind fun _ => addresses).run s).2) := by
  have hheader : (p.goingOn header addresses).addHeader.run.run s = _ := run_lift header s
  have haddresses : (p.goingOn header addresses).addAddresses.run.run (header.run s).2 = _ :=
    run_lift addresses (header.run s).2
  rw [compose_of_header hheader, haddresses, Script.run_bind]

variable {w : MessageWriter}

/-- Two providers that leave the same draft make the same message. -/
lemma create_congr {p : ContentProvider σ} {q : ContentProvider ρ} {contextP : σ} {contextQ : ρ}
    {width : ℕ} {callbacks : List Callback} {s : Session σ} {t : Session ρ}
    (htype : q.type = p.type) (hwidth : w.width? p.type = some width)
    (hp : compose p (w.opening p contextP width) = (.ok (), callbacks, s))
    (hq : compose q (w.opening q contextQ width) = (.ok (), callbacks, t))
    (hdraft : t.draft = s.draft) :
    (w.create q contextQ).result = (w.create p contextP).result ∧
      (w.create q contextQ).writer = (w.create p contextP).writer ∧
      (w.create q contextQ).callbacks = (w.create p contextP).callbacks ∧
      ∃ said, (w.create p contextP).events = s.events.reverse ++
          said :: (p.ending (w.create p contextP).result s.context).events ∧
        (w.create q contextQ).events = t.events.reverse ++
          said :: (q.ending (w.create q contextQ).result t.context).events := by
  have hwidth' : w.width? q.type = some width := htype ▸ hwidth
  have happend' : w.appendDraft q.type t.draft = w.appendDraft p.type s.draft := by
    rw [htype, hdraft]
  cases happend : w.appendDraft p.type s.draft with
  | error e =>
    rw [create_refused hwidth hp happend, create_refused hwidth' hq (happend'.trans happend)]
    refine ⟨rfl, rfl, rfl, failedEvent p.type e, rfl, ?_⟩
    rw [← htype]
    rfl
  | ok packed =>
    rw [create_finished hwidth hp happend, create_finished hwidth' hq (happend'.trans happend)]
    refine ⟨rfl, rfl, rfl, createdEvent p.type s.draft packed.2.length, rfl, ?_⟩
    rw [← htype, ← hdraft]
    rfl

/-- What is made of the accepted calls alone is what was made. -/
structure MadeAgain (made : Created σ) (again : Created ρ) : Prop where
  /-- The accepted calls are answered as they were. -/
  calls : again.calls = accepted made.calls
  result : again.result = made.result
  /-- The same bytes are appended, or none. -/
  writer : again.writer = made.writer
  callbacks : again.callbacks = made.callbacks
  /-- The log says the same of the message. -/
  events : again.events <:+: made.events

/-- **Rejected calls can be left out.**  A provider that goes on after rejected calls makes the
message that its accepted calls make, wherever they are parted between the callbacks. -/
theorem create_accepted (w : MessageWriter) (p : ContentProvider σ)
    (header addresses : Script σ Unit) (context : σ) (n : ℕ) :
    let lenient := p.goingOn header addresses
    let calls := (accepted (w.create lenient context).calls).map (·.call)
    MadeAgain (w.create lenient context)
      (w.create (.making p.type (calls.take n) (calls.drop n)) ()) := by
  intro lenient calls
  let strict : ContentProvider Unit := .making p.type (calls.take n) (calls.drop n)
  show MadeAgain (w.create lenient context) (w.create strict ())
  cases hwidth : w.width? p.type with
  | none =>
    have hlenient : w.width? lenient.type = none := hwidth
    have hstrict : w.width? strict.type = none := hwidth
    rw [create_unregistered hlenient, create_unregistered hstrict]
    exact ⟨rfl, rfl, rfl, rfl, List.infix_refl _⟩
  | some width =>
    have hlenient : w.width? lenient.type = some width := hwidth
    have hstrict : w.width? strict.type = some width := hwidth
    have htype : strict.type = lenient.type := rfl
    have hp : compose lenient (w.opening lenient context width) = _ :=
      compose_goingOn p header addresses _
    have hq : compose strict (w.opening strict () width) = _ :=
      compose_goingOn _ (.making (calls.take n)) (.making (calls.drop n)) _
    obtain ⟨new, hnew, hrun⟩ := (header.bind fun _ => addresses).run_accepted (ρ := Unit)
      (w.opening lenient context width)
    have hcalls : (w.create lenient context).calls = new := (calls_create hlenient hp).trans hnew
    -- the accepted calls, made alone, leave the same draft
    have hdraft := hrun (w.opening strict () width) rfl
    rw [← hcalls] at hdraft
    rw [← Script.making_append, List.take_append_drop, hdraft] at hq
    obtain ⟨hresult, hwriter, hcallbacks, said, hevents, hevents'⟩ :=
      create_congr htype hlenient hp hq rfl
    refine ⟨calls_create hstrict hq, hresult, hwriter, hcallbacks, ?_⟩
    -- the provider that only makes calls says nothing itself
    have hquiet : (strict.ending (w.create strict ()).result ()).events = [] := by
      cases (w.create strict ()).result <;> rfl
    rw [hevents, hevents']
    exact ⟨_, _, by rw [hquiet, List.append_assoc]; rfl⟩

end MessageWriter

/-! ## Writers that can be reached -/

/-- **A rejected call is as good as none.**  After any history, let a provider make a message that
goes on after every call, whatever it is answered.

* Every call may be carried out in place, and if it is rejected the draft is as it was.
* Let another provider make the accepted calls only, wherever they are parted between its callbacks.
  They are answered as they were, and the message comes to the same: the same bytes are appended, or
  the same error is reported. -/
theorem ReusingWriter.rejections_erasable (config : WriterConfig) (history : List Op)
    (p : ContentProvider σ) (header addresses : Script σ Unit) (context : σ) (n : ℕ) :
    let w := after config history
    let made := (w.create (p.goingOn header addresses) context).1
    let calls := (accepted made.calls).map (·.call)
    (∀ d c, (Draft.answerInPlace c).run d = d.answer c ∧
      ∀ e, rejection? ⟨c, (d.answer c).1⟩ = some e → (d.answer c).2 = d) ∧
    MadeAgain made (w.create (.making p.type (calls.take n) (calls.drop n)) ()).1 := by
  intro w made calls
  refine ⟨fun d c => ⟨d.run_answerInPlace c, fun e => Draft.answer_of_rejected⟩, ?_⟩
  have h := mirrors_after config history
  have hmade := (Loaded.after config history).writer.create_accepted p header addresses context n
  simp only [calls, made, w, h.create]
  exact hmade

end RouteDiscovery.Wire
