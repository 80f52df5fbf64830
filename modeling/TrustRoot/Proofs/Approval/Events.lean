import Mathlib.Data.List.Forall2
import TrustRoot.Proofs.Approval.Evidence
import TrustRoot.Proofs.Document.Encoding

/-!
# The events of a rotation

What a rotation leaves in the audit trail tells how it ended.  Signatures are checked by several
workers at once, so the events come in any order, but which they are depends on the standings of the
signers alone: one warning for each rejected signer, one for all foreign signers together if there
are any, the tally, and the verdict.  Where a rule is broken that needs no signatures, the refusal is
the only event (`verify_recorded`).
-/

namespace TrustRoot

namespace Event

/-- The signer that an event is about. -/
def signer? : Event → Option String
  | .signed _ _ signer | .mismatch signer | .schemeFault signer _ | .notCoreSigner signer =>
    some signer
  | _ => none

/-- The events of one level. -/
def ofLevel (level : Level) (events : List Event) : List Event :=
  events.filter fun event => event.level = level

theorem ofLevel_append (level : Level) (first second : List Event) :
    ofLevel level (first ++ second) = ofLevel level first ++ ofLevel level second :=
  List.filter_append _ _

theorem ofLevel_perm (level : Level) {first second : List Event} (order : first.Perm second) :
    (ofLevel level first).Perm (ofLevel level second) :=
  order.filter _

theorem ofLevel_eq_singleton {level : Level} {first second : List Event} {event : Event}
    (order : first.Perm second) (single : ofLevel level second = [event]) :
    ofLevel level first = [event] := by
  have same := ofLevel_perm level order
  rw [single] at same
  exact List.perm_singleton.mp same

theorem ofLevel_eq_nil_of_perm {level : Level} {first second : List Event}
    (order : first.Perm second) (none : ofLevel level second = []) :
    ofLevel level first = [] := by
  have same := ofLevel_perm level order
  rw [none] at same
  exact same.eq_nil

theorem ofLevel_of_forall {level : Level} {events : List Event}
    (all : ∀ event ∈ events, event.level = level) : ofLevel level events = events :=
  List.filter_eq_self.mpr fun event listed => decide_eq_true (all event listed)

theorem ofLevel_eq_nil {level other : Level} {events : List Event}
    (all : ∀ event ∈ events, event.level = other) (different : other ≠ level) :
    ofLevel level events = [] :=
  List.filter_eq_nil_iff.mpr fun event listed same =>
    different ((all event listed).symm.trans (of_decide_eq_true same))

/-- Verdicts are not about one signer. -/
theorem signer?_eq_none {event : Event} (final : event.level = .info ∨ event.level = .error) :
    event.signer? = none := by
  cases event with
  | signed | mismatch | schemeFault | notCoreSigner => simp [level] at final
  | parsed | oversized | foreign | tallied | quorumNotMet | rotationRejected | rotationAccepted =>
      rfl

end Event

namespace Quorum

variable {Key : Type} {scheme : SignatureScheme Key} {candidate reference : Document}

/-! ## Warnings -/

/-- The event is the warning about a signer whose signature does not verify or cannot be checked. -/
def Warns (scheme : SignatureScheme Key) (candidate reference : Document) (payload : Bytes)
    (signer : String) (event : Event) : Prop :=
  (event = .mismatch signer ∧
      Checks scheme candidate reference payload signer (.ok false)) ∨
    ∃ fault, event = .schemeFault signer (.signaturePrimitive fault) ∧
      Checks scheme candidate reference payload signer (.error fault)

theorem Warns.level {payload : Bytes} {signer : String} {event : Event}
    (warns : Warns scheme candidate reference payload signer event) : event.level = .warn := by
  obtain ⟨rfl, -⟩ | ⟨fault, rfl, -⟩ := warns
  · rfl
  · rfl

theorem Warns.signer? {payload : Bytes} {signer : String} {event : Event}
    (warns : Warns scheme candidate reference payload signer event) :
    event.signer? = some signer := by
  obtain ⟨rfl, -⟩ | ⟨fault, rfl, -⟩ := warns
  · rfl
  · rfl

/-- The outcomes that are worth a warning are those of rejected signers. -/
theorem forall₂_event? {relation : String → Event → Prop} {standings : List (String × Standing)}
    (related : ∀ signer worth event, (signer, worth) ∈ standings →
      worth.event? signer = some event → relation signer event) :
    List.Forall₂ relation
      ((standings.filter fun entry => entry.2.isRejected).map Prod.fst)
      (standings.filterMap fun entry => entry.2.event? entry.1) := by
  induction standings with
  | nil => exact .nil
  | cons entry rest ih =>
      obtain ⟨signer, worth⟩ := entry
      have others := ih fun signer worth event listed =>
        related signer worth event (List.mem_cons_of_mem _ listed)
      cases worth with
      | foreign | valid => exact others
      | mismatch | fault => exact .cons (related _ _ _ List.mem_cons_self rfl) others

theorem warns_of_event? {payload : Bytes} {signer : String} {worth : Standing} {event : Event}
    (stands : (signer, worth) ∈ standings scheme candidate reference payload)
    (warns : worth.event? signer = some event) :
    Warns scheme candidate reference payload signer event := by
  obtain ⟨signature, held, rfl⟩ := mem_standings.mp stands
  unfold standing at warns
  cases core : reference.coreAses.get? signer with
  | none =>
      rw [core] at warns
      cases warns
  | some keys =>
      simp only [core] at warns
      cases outcome : scheme.verify payload signature keys.onlineKey with
      | error fault =>
          rw [outcome] at warns
          cases warns
          exact .inr ⟨fault, rfl, keys, signature, core, held, outcome⟩
      | ok verifies =>
          rw [outcome] at warns
          cases verifies with
          | true => cases warns
          | false =>
              cases warns
              exact .inl ⟨rfl, keys, signature, core, held, outcome⟩

/-- The warnings about the signatures of a candidate, by ascending signer. -/
def warnings (scheme : SignatureScheme Key) (candidate reference : Document) (payload : Bytes) :
    List Event :=
  (standings scheme candidate reference payload).filterMap fun entry => entry.2.event? entry.1

theorem keys_standings (payload : Bytes) :
    (standings scheme candidate reference payload).map Prod.fst = candidate.signatures.keys := by
  rw [standings, List.map_map]
  rfl

/-- Every rejected signer is warned about once. -/
theorem exists_warnings (required : UInt32) (payload : Bytes) :
    ∃ listed, List.Forall₂ (Warns scheme candidate reference payload)
        (Tally.collect required (standings scheme candidate reference payload)).rejected listed ∧
      listed.Perm (warnings scheme candidate reference payload) := by
  have names : ((standings scheme candidate reference payload).filter fun entry =>
      entry.2.isRejected).map Prod.fst |>.Nodup := by
    apply List.Nodup.sublist (List.filter_sublist.map Prod.fst)
    rw [keys_standings]
    exact Dict.nodup_keys _
  exact List.perm_comp_forall₂ (perm_nameSet names)
    (forall₂_event? fun _ _ _ => warns_of_event?)

theorem filterMap_signer? {payload : Bytes} {names : List String} {listed : List Event}
    (warned : List.Forall₂ (Warns scheme candidate reference payload) names listed) :
    listed.filterMap Event.signer? = names := by
  induction warned with
  | nil => rfl
  | cons warns others ih => rw [List.filterMap_cons_some warns.signer?, ih]

/-! ## A tally and its verdict -/

/-- What events say about the tally of a candidate, in whatever order they come: one states how many
signers are valid of how many that are required, one lists the foreign signers if there are any, and
every rejected signer is warned about once.  No event is about any other signer. -/
structure Recorded (scheme : SignatureScheme Key) (candidate reference : Document)
    (counted : Tally) (events : List Event) : Prop where
  debug : Event.ofLevel .debug events =
    [.tallied candidate.isd candidate.version counted.valid.length counted.required]
  warn : ∃ payload listed, candidate.signingInput false = .ok payload ∧
    List.Forall₂ (Warns scheme candidate reference payload) counted.rejected listed ∧
    (Event.ofLevel .warn events).Perm
      ((if counted.foreign = [] then []
        else [.foreign candidate.isd candidate.version counted.foreign]) ++ listed)
  about : (events.filterMap Event.signer?).Perm counted.rejected

theorem Recorded.perm {counted : Tally} {events events' : List Event}
    (recorded : Recorded scheme candidate reference counted events)
    (order : events'.Perm events) : Recorded scheme candidate reference counted events' := by
  obtain ⟨payload, listed, signed, warned, warn⟩ := recorded.warn
  exact ⟨Event.ofLevel_eq_singleton order recorded.debug,
    ⟨payload, listed, signed, warned, (Event.ofLevel_perm .warn order).trans warn⟩,
    (order.filterMap _).trans recorded.about⟩

theorem events_tally {payload : Bytes} (signed : candidate.signingInput false = .ok payload) :
    let counted := Tally.collect reference.quorumOwnTrc
      (standings scheme candidate reference payload)
    (tally scheme candidate reference).events = foreignEvents candidate counted.foreign ++
      (warnings scheme candidate reference payload ++
        [.tallied candidate.isd candidate.version counted.valid.length counted.required]) := by
  unfold tally
  rw [signed]
  rfl

theorem of_mem_foreignEvents {foreign : List String} :
    ∀ event ∈ foreignEvents candidate foreign, event.level = .warn ∧ event.signer? = none := by
  unfold foreignEvents
  intro event listed
  split at listed
  · cases listed
  · obtain rfl := List.mem_singleton.mp listed
    exact ⟨rfl, rfl⟩

theorem level_of_mem_warnings {payload : Bytes} :
    ∀ event ∈ warnings scheme candidate reference payload, event.level = .warn := by
  intro event listed
  obtain ⟨⟨signer, worth⟩, stands, warns⟩ := List.mem_filterMap.mp listed
  exact (warns_of_event? stands warns).level

/-- The events of a tally, level by level. -/
theorem ofLevel_events_tally {payload : Bytes} (signed : candidate.signingInput false = .ok payload)
    (level : Level) :
    let counted := Tally.collect reference.quorumOwnTrc
      (standings scheme candidate reference payload)
    Event.ofLevel level (tally scheme candidate reference).events =
      match level with
      | .debug =>
        [.tallied candidate.isd candidate.version counted.valid.length counted.required]
      | .warn => foreignEvents candidate counted.foreign ++
          warnings scheme candidate reference payload
      | .info | .error => [] := by
  intro counted
  have foreign : ∀ event ∈ foreignEvents candidate counted.foreign, event.level = .warn :=
    fun event listed => (of_mem_foreignEvents event listed).1
  have warned : ∀ event ∈ warnings scheme candidate reference payload, event.level = .warn :=
    level_of_mem_warnings
  rw [events_tally signed, Event.ofLevel_append, Event.ofLevel_append]
  cases level with
  | warn =>
      rw [Event.ofLevel_of_forall foreign, Event.ofLevel_of_forall warned]
      exact congrArg _ (List.append_nil _)
  | debug | info | error =>
      rw [Event.ofLevel_eq_nil foreign (by decide), Event.ofLevel_eq_nil warned (by decide)]
      rfl

/-- Information and errors come from the verdict. -/
theorem ofLevel_append_verdict {counted : Tally}
    (tallied : (tally scheme candidate reference).result = .ok counted) {level : Level}
    (final : level = .info ∨ level = .error) (verdict : Event) :
    Event.ofLevel level ((tally scheme candidate reference).events ++ [verdict]) =
      Event.ofLevel level [verdict] := by
  obtain ⟨payload, signed, -⟩ := tally_eq_ok_iff.mp tallied
  rw [Event.ofLevel_append, ofLevel_events_tally signed]
  rcases final with rfl | rfl
  · rfl
  · rfl

/-- A tally is recorded together with a verdict on it. -/
theorem recorded_append {counted : Tally} {verdict : Event}
    (tallied : (tally scheme candidate reference).result = .ok counted)
    (final : verdict.level = .info ∨ verdict.level = .error) :
    Recorded scheme candidate reference counted
      ((tally scheme candidate reference).events ++ [verdict]) := by
  obtain ⟨payload, signed, rfl⟩ := tally_eq_ok_iff.mp tallied
  obtain ⟨listed, warned, same⟩ :=
    @exists_warnings _ scheme candidate reference reference.quorumOwnTrc payload
  have verdictQuiet {level : Level} (info : level ≠ .info) (error : level ≠ .error) :
      Event.ofLevel level [verdict] = [] := by
    apply Event.ofLevel_eq_nil (fun event listed => congrArg _ (List.mem_singleton.mp listed))
    rcases final with isInfo | isError
    · exact isInfo ▸ info.symm
    · exact isError ▸ error.symm
  constructor
  case debug =>
    rw [Event.ofLevel_append, ofLevel_events_tally signed, verdictQuiet (by decide) (by decide)]
    rfl
  case warn =>
    refine ⟨payload, listed, signed, warned, ?_⟩
    rw [Event.ofLevel_append, ofLevel_events_tally signed, verdictQuiet (by decide) (by decide),
      List.append_nil]
    exact same.symm.append_left _
  case about =>
    have foreign : (foreignEvents candidate (Tally.collect reference.quorumOwnTrc
        (standings scheme candidate reference payload)).foreign).filterMap Event.signer? = [] :=
      List.filterMap_eq_nil_iff.mpr fun event listed => (of_mem_foreignEvents event listed).2
    have others : [verdict].filterMap Event.signer? = [] :=
      List.filterMap_cons_none (Event.signer?_eq_none final)
    have about := (same.filterMap Event.signer?).symm
    rw [filterMap_signer? warned] at about
    rw [events_tally signed, List.filterMap_append, List.filterMap_append, List.filterMap_append,
      foreign, others, List.filterMap_cons_none rfl, List.filterMap_nil, List.nil_append,
      List.append_nil, List.append_nil]
    exact about

/-! ## The decision on a quorum -/

/-- A tally that does not meet the quorum is followed by the refusal. -/
theorem events_verify {counted : Tally}
    (tallied : (tally scheme candidate reference).result = .ok counted) :
    (verify scheme candidate reference).events = (tally scheme candidate reference).events ++
      if counted.isMet = true then []
      else [.quorumNotMet candidate.isd candidate.version counted.required
        counted.valid.length] := by
  rw [verify, Trail.events_bind_of_ok _ tallied]
  split
  · rfl
  · rfl

end Quorum

namespace Rotation

variable {Key : Type} {scheme : SignatureScheme Key} {previous candidate : Document}

theorem events_of_not_mayFollow {reason : Error} (broken : ¬ MayFollow previous candidate)
    (refused : (verify scheme previous candidate).result = .error reason) :
    (verify scheme previous candidate).events =
      [.rotationRejected previous.isd previous.version candidate.version reason] := by
  unfold verify at refused ⊢
  cases outcome : checkTransition previous candidate with
  | ok passed => exact absurd (checkTransition_eq_ok_iff.mp outcome) broken
  | error cause =>
      rw [outcome] at refused
      cases refused
      rfl

theorem verify_of_mayFollow (rules : MayFollow previous candidate) :
    verify scheme previous candidate = (do
      let tally ← Quorum.verify scheme candidate previous
      .emit (.rotationAccepted candidate.isd candidate.version tally.achieved)
      return tally) := by
  rw [verify, checkTransition_eq_ok_iff.mpr rules]

theorem events_of_ok {counted : Tally}
    (accepted : (verify scheme previous candidate).result = .ok counted) :
    (verify scheme previous candidate).events =
      (Quorum.tally scheme candidate previous).events ++
        [.rotationAccepted candidate.isd candidate.version counted.valid.length] := by
  obtain ⟨rules, met⟩ := verify_eq_ok_iff.mp accepted
  obtain ⟨tallied, isMet⟩ := Quorum.verify_eq_ok_iff.mp met
  rw [verify_of_mayFollow rules, Trail.events_bind_of_ok _ met, Quorum.events_verify tallied,
    if_pos isMet, List.append_nil]
  rfl

theorem events_of_mayFollow {counted : Tally} {reason : Error}
    (rules : MayFollow previous candidate)
    (tallied : (Quorum.tally scheme candidate previous).result = .ok counted)
    (refused : (verify scheme previous candidate).result = .error reason) :
    (verify scheme previous candidate).events =
      (Quorum.tally scheme candidate previous).events ++
        [.quorumNotMet candidate.isd candidate.version counted.required
          counted.valid.length] := by
  have short : ¬ counted.isMet = true := by
    intro isMet
    have accepted : (verify scheme previous candidate).result = .ok counted :=
      verify_eq_ok_iff.mpr ⟨rules, Quorum.verify_eq_ok_iff.mpr ⟨tallied, isMet⟩⟩
    cases accepted.symm.trans refused
  have few : ¬ counted.required.toNat ≤ counted.valid.length := mt decide_eq_true short
  have ended := Quorum.result_verify tallied
  rw [if_neg few] at ended
  rw [verify_of_mayFollow rules, Trail.events_bind_of_error _ ended, Quorum.events_verify tallied,
    if_neg short]

/-- The events of a rotation tell its outcome, in whatever order they come.  An accepted candidate
leaves one piece of information and no error, a refused one leaves one error and no information.
A candidate that may not follow leaves nothing but its refusal, and any other one leaves the record
of its tally. -/
theorem verify_recorded (scheme : SignatureScheme Key) (previous candidate : Document)
    {events : List Event} (order : events.Perm (verify scheme previous candidate).events) :
    (∀ counted, (verify scheme previous candidate).result = .ok counted →
      Event.ofLevel .info events =
        [.rotationAccepted candidate.isd candidate.version counted.valid.length] ∧
      Event.ofLevel .error events = [] ∧
      Quorum.Recorded scheme candidate previous counted events) ∧
    ∀ reason, (verify scheme previous candidate).result = .error reason →
      Event.ofLevel .info events = [] ∧ (Event.ofLevel .error events).length = 1 ∧
      (¬ MayFollow previous candidate → events =
        [.rotationRejected previous.isd previous.version candidate.version reason]) ∧
      (MayFollow previous candidate → ∃ counted,
        (Quorum.tally scheme candidate previous).result = .ok counted ∧
        Event.ofLevel .error events = [.quorumNotMet candidate.isd candidate.version
          previous.quorumOwnTrc counted.valid.length] ∧
        Quorum.Recorded scheme candidate previous counted events) := by
  constructor
  · intro counted accepted
    obtain ⟨-, met⟩ := verify_eq_ok_iff.mp accepted
    obtain ⟨tallied, -⟩ := Quorum.verify_eq_ok_iff.mp met
    rw [events_of_ok accepted] at order
    refine ⟨Event.ofLevel_eq_singleton order ?_, Event.ofLevel_eq_nil_of_perm order ?_,
      (Quorum.recorded_append tallied (.inl rfl)).perm order⟩
    · exact Quorum.ofLevel_append_verdict tallied (.inl rfl) _
    · exact Quorum.ofLevel_append_verdict tallied (.inr rfl) _
  · intro reason refused
    by_cases rules : MayFollow previous candidate
    · obtain ⟨counted, tallied⟩ := Quorum.exists_tally scheme candidate previous
      obtain ⟨payload, signed, rfl⟩ := Quorum.tally_eq_ok_iff.mp tallied
      rw [events_of_mayFollow rules tallied refused] at order
      have errors := Event.ofLevel_eq_singleton order
        (Quorum.ofLevel_append_verdict tallied (.inr rfl) _)
      refine ⟨Event.ofLevel_eq_nil_of_perm order ?_, congrArg List.length errors,
        fun broken => absurd rules broken, fun _ => ⟨_, tallied, errors,
          (Quorum.recorded_append tallied (.inr rfl)).perm order⟩⟩
      exact Quorum.ofLevel_append_verdict tallied (.inl rfl) _
    · rw [events_of_not_mayFollow rules refused] at order
      obtain rfl := List.perm_singleton.mp order
      exact ⟨rfl, rfl, fun _ => rfl, fun holds => absurd holds rules⟩

/-- One of two required signatures is valid, and the events arrive in the opposite order. -/
theorem verify_recorded_mixed :
    let events := (verify Quorum.ownKeyOrFault threeCore mixedSuccessor).events.reverse
    events.Perm (verify Quorum.ownKeyOrFault threeCore mixedSuccessor).events ∧
      (verify Quorum.ownKeyOrFault threeCore mixedSuccessor).result =
        .error (.quorumNotMet 2 1) ∧
      MayFollow threeCore mixedSuccessor ∧
      Event.ofLevel .error events = [.quorumNotMet 1 8 2 1] ∧
      Quorum.Recorded Quorum.ownKeyOrFault mixedSuccessor threeCore
        ⟨2, ["1-1"], ["1-2", "1-3"], ["1-4"]⟩ events := by
  intro events
  have order : events.Perm (verify Quorum.ownKeyOrFault threeCore mixedSuccessor).events :=
    List.reverse_perm _
  have rules : MayFollow threeCore mixedSuccessor := checkTransition_eq_ok_iff.mp rfl
  obtain ⟨-, refused⟩ := verify_recorded Quorum.ownKeyOrFault threeCore mixedSuccessor order
  obtain ⟨-, -, -, record⟩ := refused _ verify_mixedSuccessor
  obtain ⟨counted, tallied, errors, recorded⟩ := record rules
  cases tallied.symm.trans tally_mixedSuccessor
  exact ⟨order, verify_mixedSuccessor, rules, errors, recorded⟩

end Rotation

end TrustRoot
