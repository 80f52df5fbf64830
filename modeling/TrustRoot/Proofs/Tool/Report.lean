import TrustRoot.Proofs.Approval.Tally
import TrustRoot.Proofs.Text.Numeral
import TrustRoot.Proofs.Text.Separated
import TrustRoot.Proofs.Tool.Continuation
import TrustRoot.Proofs.Tool.Verdicts

/-!
# Reading a report back

The report on a verification lists signers by their names as they are, and a name may be any text.
What the last line says can always be read back: the quorum, how many signers are valid, and so the
verdict.  The signers themselves can be read back if no name holds a line break or a separator, and
if no dash stands for a signer instead of nobody (`report_read_back`).  Otherwise different signers
may make the same report (`strangers_share_report`).
-/

namespace TrustRoot.Tool

/-! ## Lines -/

def lineBreaks (text : String) : Nat := text.toList.count '\n'

/-- Lines below each other, each of which is ended, as the text of `textLines`. -/
def linesText (lines : List String) : String := String.join (lines.map fun line => line ++ "\n")

theorem lineBreaks_append (first second : String) :
    lineBreaks (first ++ second) = lineBreaks first + lineBreaks second := by
  simp [lineBreaks]

theorem linesText_cons (line : String) (lines : List String) :
    linesText (line :: lines) = line ++ "\n" ++ linesText lines :=
  String.join_cons

/-- Every line is ended by one line break, besides those within it. -/
theorem lineBreaks_linesText (lines : List String) :
    lineBreaks (linesText lines) = lines.length + lineBreaks (String.join lines) := by
  induction lines with
  | nil => rfl
  | cons line rest ih =>
      have ended : lineBreaks "\n" = 1 := rfl
      rw [linesText_cons, lineBreaks_append, lineBreaks_append, ended, ih, List.length_cons,
        String.join_cons, lineBreaks_append]
      omega

theorem lineBreaks_join_eq_zero_iff {texts : List String} :
    lineBreaks (String.join texts) = 0 ↔ ∀ text ∈ texts, lineBreaks text = 0 := by
  simp [lineBreaks, List.count_eq_zero, String.toList_join]

theorem notMem_of_lineBreaks {text : String} (unbroken : lineBreaks text = 0) :
    '\n' ∉ text.toList :=
  List.count_eq_zero.mp unbroken

/-- Lines without line breaks are determined by their text. -/
theorem linesText_inj {lines lines' : List String} (unbroken : ∀ line ∈ lines, lineBreaks line = 0)
    (unbroken' : ∀ line ∈ lines', lineBreaks line = 0) (same : linesText lines = linesText lines') :
    lines = lines' := by
  have cut (line : String) (rest : List String) :
      (linesText (line :: rest)).toList = line.toList ++ '\n' :: (linesText rest).toList := by
    simp [linesText_cons]
  induction lines generalizing lines' with
  | nil =>
      cases lines' with
      | nil => rfl
      | cons line' rest' => simp [linesText] at same
  | cons line rest ih =>
      cases lines' with
      | nil => simp [linesText] at same
      | cons line' rest' =>
          rw [List.forall_mem_cons] at unbroken unbroken'
          have marked := congrArg String.toList same
          rw [cut, cut] at marked
          obtain ⟨first, others⟩ := Text.append_mark_inj (notMem_of_lineBreaks unbroken.1)
            (notMem_of_lineBreaks unbroken'.1) marked
          rw [String.toList_inj.mp first,
            ih unbroken.2 unbroken'.2 (String.toList_inj.mp others)]

/-- The last of several lines is determined by their text, whatever breaks the others have. -/
theorem last_line_inj {lines lines' : List String} {last last' : String}
    (several : lines ≠ []) (several' : lines' ≠ []) (unbroken : lineBreaks last = 0)
    (unbroken' : lineBreaks last' = 0)
    (same : linesText (lines ++ [last]) = linesText (lines' ++ [last'])) : last = last' := by
  have cut {front : List String} (some : front ≠ []) (final : String) :
      ∃ before, (linesText (front ++ [final])).toList =
        (before ++ '\n' :: final.toList) ++ ['\n'] := by
    obtain ⟨others, line, rfl⟩ := List.eq_nil_or_concat front |>.resolve_left some
    refine ⟨(linesText others ++ line).toList, ?_⟩
    simp [linesText]
  obtain ⟨before, text⟩ := cut several last
  obtain ⟨before', text'⟩ := cut several' last'
  have marked := (text.symm.trans (congrArg String.toList same)).trans text'
  obtain ⟨-, finals⟩ := Text.append_last_mark_inj (notMem_of_lineBreaks unbroken)
    (notMem_of_lineBreaks unbroken') (List.append_cancel_right marked)
  exact String.toList_inj.mp finals

/-! ## Names -/

theorem listing_of_ne_nil {names : List String} (some : names ≠ []) :
    listing names = String.intercalate ", " names :=
  if_neg some

/-- A list has the line breaks of its names. -/
theorem lineBreaks_listing (names : List String) :
    lineBreaks (listing names) = lineBreaks (String.join names) := by
  cases names with
  | nil => rfl
  | cons name rest =>
      rw [listing_of_ne_nil (List.cons_ne_nil name rest)]
      induction rest generalizing name with
      | nil => simp
      | cons next others ih =>
          have separated : lineBreaks ", " = 0 := rfl
          rw [String.intercalate_cons_cons, lineBreaks_append, lineBreaks_append, separated, ih,
            Nat.add_zero, ← lineBreaks_append, ← String.join_cons]

/-- A list of names is determined by its text, but for an empty list and an empty name. -/
theorem listing_inj {names names' : List String}
    (whole : ∀ name ∈ names, ¬ Text.separator <:+: name.toList)
    (whole' : ∀ name ∈ names', ¬ Text.separator <:+: name.toList)
    (empty : names = [] ↔ names' = []) (same : listing names = listing names') :
    names = names' := by
  by_cases none : names = []
  · exact none.trans (empty.mp none).symm
  rw [listing_of_ne_nil none, listing_of_ne_nil (mt empty.mpr none)] at same
  have marked := congrArg String.toList same
  rw [String.toList_intercalate, String.toList_intercalate] at marked
  refine List.map_injective_iff.mpr (fun _ _ => String.toList_injective) ?_
  exact Text.intercalate_separator_inj (by simpa using whole) (by simpa using whole')
    (by simpa using empty) marked

/-- Only a dash is listed as if there were nobody. -/
theorem eq_dash_of_listing {names : List String} (some : names ≠ [])
    (dash : listing names = "-") : names = ["-"] := by
  rw [listing_of_ne_nil some] at dash
  cases names with
  | nil => exact absurd rfl some
  | cons name rest =>
      cases rest with
      | nil => simpa using dash
      | cons next others =>
          have long := congrArg String.length dash
          rw [String.intercalate_cons_cons, String.length_append, String.length_append] at long
          change name.length + 2 + _ = 1 at long
          omega

/-- Without a lone dash a list of names tells whether there is anyone. -/
theorem eq_nil_iff_of_listing {names names' : List String} (named : names ≠ ["-"])
    (named' : names' ≠ ["-"]) (same : listing names = listing names') :
    names = [] ↔ names' = [] := by
  constructor
  · rintro rfl
    by_contra some
    exact named' (eq_dash_of_listing some same.symm)
  · rintro rfl
    by_contra some
    exact named (eq_dash_of_listing some same)

/-! ## The last line -/

/-- The line that tells whether a tally meets its quorum. -/
def quorumLine (counted : Tally) : String :=
  "quorum " ++ (if counted.isMet then "met" else "NOT met") ++ " (" ++
    counted.achieved.repr ++ " of " ++ counted.required.toNat.repr ++ ")"

theorem tallyLines_eq (counted : Tally) :
    tallyLines counted = ["required: " ++ counted.required.toNat.repr,
      "valid:    " ++ listing counted.valid, "rejected: " ++ listing counted.rejected,
      "foreign:  " ++ listing counted.foreign] ++ [quorumLine counted] :=
  rfl

theorem lineBreaks_repr (number : Nat) : lineBreaks number.repr = 0 := by
  rw [lineBreaks, Nat.toList_repr]
  exact List.count_eq_zero.mpr (Numeral.notMem_toDigits (by decide) (by decide) rfl number)

theorem lineBreaks_quorumLine (counted : Tally) : lineBreaks (quorumLine counted) = 0 := by
  have verdict : lineBreaks (if counted.isMet then "met" else "NOT met") = 0 := by
    cases counted.isMet <;> rfl
  simp only [quorumLine, lineBreaks_append, lineBreaks_repr, verdict]
  rfl

/-- The numbers in the last line stand behind the only bracket that opens. -/
theorem toList_quorumLine (counted : Tally) : ∃ front, '(' ∉ front ∧
    (quorumLine counted).toList = front ++ '(' :: (Nat.toDigits 10 counted.achieved ++
      ' ' :: ("of ".toList ++ (Nat.toDigits 10 counted.required.toNat ++ [')']))) := by
  refine ⟨("quorum " ++ (if counted.isMet then "met" else "NOT met") ++ " ").toList, ?_, ?_⟩
  · cases counted.isMet <;> decide
  · simp [quorumLine]

theorem quorumLine_inj {counted counted' : Tally}
    (same : quorumLine counted = quorumLine counted') :
    counted.achieved = counted'.achieved ∧ counted.required = counted'.required := by
  have blank (number : Nat) : ' ' ∉ Nat.toDigits 10 number :=
    Numeral.notMem_toDigits (by decide) (by decide) rfl number
  obtain ⟨front, absent, spelled⟩ := toList_quorumLine counted
  obtain ⟨front', absent', spelled'⟩ := toList_quorumLine counted'
  have marked := (spelled.symm.trans (congrArg String.toList same)).trans spelled'
  obtain ⟨-, numbers⟩ := Text.append_mark_inj absent absent' marked
  obtain ⟨achieved, rest⟩ := Text.append_mark_inj (blank _) (blank _) numbers
  have required := List.append_cancel_right (List.append_cancel_left rest)
  have decimal {number number' : Nat}
      (same : Nat.toDigits 10 number = Nat.toDigits 10 number') : number = number' :=
    Numeral.toDigits_inj (by decide) (by decide) same
  exact ⟨decimal achieved, UInt32.toNat_inj.mp (decimal required)⟩

/-! ## The report -/

/-- Two files to verify, and how they are read. -/
structure Verification where
  service : Service Ed25519.KeyPair
  compressed : Bool
  candidate : Bytes
  reference : Bytes

/-- Both files are read, with this tally, and the report and the verdict are these. -/
structure Verification.Finds (run : Verification) (counted : Tally) (verdict : Verdict)
    (report : String) : Prop where
  tallied : ∃ candidate reference,
    (run.service.parse run.compressed run.candidate).result = .ok candidate ∧
    (run.service.parse run.compressed run.reference).result = .ok reference ∧
    (Quorum.tally run.service.scheme candidate reference).result = .ok counted
  written : ∀ output,
    ((Command.verify run.candidate run.reference).write run.service run.compressed).run output =
      .ok verdict (output ++ Bytes.ofText report)

/-- The names that a report on a tally lists. -/
def listedNames (counted : Tally) : List String :=
  counted.valid ++ counted.rejected ++ counted.foreign

/-- No name goes beyond its line or looks like two, and no dash stands for a signer where nobody
would be listed as a dash.  How many signers are valid is known from the last line. -/
structure Legible (counted : Tally) : Prop where
  unbroken : ∀ name ∈ listedNames counted, lineBreaks name = 0
  whole : ∀ name ∈ listedNames counted, ¬ Text.separator <:+: name.toList
  rejected : counted.rejected ≠ ["-"]
  foreign : counted.foreign ≠ ["-"]

theorem lineBreaks_tallyLines (counted : Tally) :
    lineBreaks (String.join (tallyLines counted)) =
      lineBreaks (String.join (listedNames counted)) := by
  have labels : lineBreaks "required: " = 0 ∧ lineBreaks "valid:    " = 0 ∧
      lineBreaks "rejected: " = 0 ∧ lineBreaks "foreign:  " = 0 := by decide
  obtain ⟨required, valid, rejected, foreign⟩ := labels
  simp [tallyLines_eq, listedNames, lineBreaks_append, lineBreaks_repr, lineBreaks_listing,
    lineBreaks_quorumLine, required, valid, rejected, foreign]

/-- Whatever signers are called, the numbers and so the verdict are read from the last line. -/
theorem numbers_of_tallyLines {counted counted' : Tally}
    (same : linesText (tallyLines counted) = linesText (tallyLines counted')) :
    counted.achieved = counted'.achieved ∧ counted.required = counted'.required := by
  rw [tallyLines_eq, tallyLines_eq] at same
  exact quorumLine_inj (last_line_inj (List.cons_ne_nil _ _) (List.cons_ne_nil _ _)
    (lineBreaks_quorumLine counted) (lineBreaks_quorumLine counted') same)

theorem Legible.lineBreaks_eq_zero {counted : Tally} (legible : Legible counted) :
    ∀ line ∈ tallyLines counted, lineBreaks line = 0 := by
  rw [← lineBreaks_join_eq_zero_iff, lineBreaks_tallyLines]
  exact lineBreaks_join_eq_zero_iff.mpr legible.unbroken

/-- Legible tallies with the same report are the same. -/
theorem tally_of_tallyLines {counted counted' : Tally} (legible : Legible counted)
    (legible' : Legible counted')
    (same : linesText (tallyLines counted) = linesText (tallyLines counted')) :
    counted = counted' := by
  obtain ⟨achieved, required⟩ := numbers_of_tallyLines same
  have lines := linesText_inj legible.lineBreaks_eq_zero legible'.lineBreaks_eq_zero same
  have whole := legible.whole
  have whole' := legible'.whole
  simp only [listedNames, List.forall_mem_append] at whole whole'
  obtain ⟨-, valid, rejected, foreign, -⟩ : _ ∧ listing counted.valid = listing counted'.valid ∧
      listing counted.rejected = listing counted'.rejected ∧
      listing counted.foreign = listing counted'.foreign ∧ _ := by
    simpa [tallyLines_eq] using lines
  have someValid : counted.valid = [] ↔ counted'.valid = [] := by
    rw [← List.length_eq_zero_iff, ← List.length_eq_zero_iff]
    exact iff_of_eq (congrArg (· = 0) achieved)
  have someRejected := eq_nil_iff_of_listing legible.rejected legible'.rejected rejected
  have someForeign := eq_nil_iff_of_listing legible.foreign legible'.foreign foreign
  obtain ⟨_, _, _, _⟩ := counted
  obtain ⟨_, _, _, _⟩ := counted'
  rw [Tally.mk.injEq]
  exact ⟨required, listing_inj whole.1.1 whole'.1.1 someValid valid,
    listing_inj whole.1.2 whole'.1.2 someRejected rejected,
    listing_inj whole.2 whole'.2 someForeign foreign⟩

namespace Verification

variable {run : Verification} {counted : Tally} {verdict : Verdict} {report : String}

theorem write_eq {candidate reference : Document}
    (read : (run.service.parse run.compressed run.candidate).result = .ok candidate)
    (read' : (run.service.parse run.compressed run.reference).result = .ok reference)
    (tallied : (Quorum.tally run.service.scheme candidate reference).result = .ok counted)
    (output : Bytes) :
    ((Command.verify run.candidate run.reference).write run.service run.compressed).run output =
      .ok (if counted.isMet then .accepted else .rejected)
        (output ++ Bytes.ofText (linesText (tallyLines counted))) := by
  have reported :
      (Command.verifyRaw run.service run.compressed run.candidate run.reference).result =
        .ok ⟨if counted.isMet then .accepted else .rejected, textLines (tallyLines counted)⟩ := by
    simp only [Command.verifyRaw, Command.readDocument, Trail.result_bind_eq_ok_iff,
      Trail.result_mapError, mapError_eq_ok_iff]
    exact ⟨candidate, read, reference, read', counted, tallied, rfl⟩
  rw [Command.writes_run, Command.run, reported]
  rfl

theorem finds_of_parse {candidate reference : Document}
    (read : (run.service.parse run.compressed run.candidate).result = .ok candidate)
    (read' : (run.service.parse run.compressed run.reference).result = .ok reference)
    (tallied : (Quorum.tally run.service.scheme candidate reference).result = .ok counted) :
    run.Finds counted (if counted.isMet then .accepted else .rejected)
      (linesText (tallyLines counted)) :=
  ⟨⟨candidate, reference, read, read', tallied⟩, write_eq read read' tallied⟩

theorem exists_finds {candidate reference : Document}
    (read : (run.service.parse run.compressed run.candidate).result = .ok candidate)
    (read' : (run.service.parse run.compressed run.reference).result = .ok reference) :
    ∃ counted verdict report, run.Finds counted verdict report := by
  obtain ⟨counted, tallied⟩ := Quorum.exists_tally run.service.scheme candidate reference
  exact ⟨counted, _, _, finds_of_parse read read' tallied⟩

/-- The report on a tally. -/
theorem Finds.report_eq (found : run.Finds counted verdict report) :
    verdict = (if counted.isMet then .accepted else .rejected) ∧
      report = linesText (tallyLines counted) := by
  obtain ⟨candidate, reference, read, read', tallied⟩ := found.tallied
  have written := (found.written []).symm.trans (write_eq read read' tallied [])
  obtain ⟨rfl, same⟩ := EStateM.Result.ok.inj written
  exact ⟨rfl, Bytes.ofText_injective same⟩

end Verification

/-! ## Signatures of strangers -/

/-- The sample with the same signature of several strangers. -/
def signedBy (strangers : List String) (signature : Bytes) : Document :=
  { Document.sample with signatures := .ofList (strangers.map fun name => (name, signature)) }

/-- The sample with signatures of strangers, to be approved by the sample itself. -/
def strangersRun (strangers : List String) (signature : Bytes) : Verification where
  service := .ed25519 Zstandard.library {}
  compressed := false
  candidate := Bytes.ofText ((signedBy strangers signature).text true)
  reference := Bytes.ofText (Document.sample.text true)

def strangersTally (strangers : List String) : Tally := ⟨1, [], [], nameSet strangers⟩

theorem collect_foreign (strangers : List String) :
    Tally.collect 1 (strangers.map fun name => (name, .foreign)) = strangersTally strangers := by
  have nobody : nameSet [] = [] := rfl
  simp [Tally.collect, Tally.signersWith, List.filter_map, Function.comp_def, Standing.isValid,
    Standing.isRejected, Standing.isForeign, strangersTally, nobody]

theorem parse_sample : ((Service.ed25519 Zstandard.library {}).parse false
    (Bytes.ofText (Document.sample.text true))).result = .ok Document.sample := by
  refine Service.parse_text _ Document.reachable_sample.sound Document.readable_sample ?_
  rw [← Command.maxPayload_tightSettings]
  decide

section

variable {strangers : List String} {signature : Bytes}

/-- Signatures that take little room can be read. -/
theorem parse_signedBy
    (small : ((signedBy strangers signature).project .signatures).extent .indented 1 ≤ 1000000) :
    ((Service.ed25519 Zstandard.library {}).parse false
      (Bytes.ofText ((signedBy strangers signature).text true))).result =
        .ok (signedBy strangers signature) := by
  have own : 656 = (Bytes.ofText (Document.sample.text true)).length :=
    Command.maxPayload_tightSettings
  have lengths :=
    @Document.length_text_of_toBody Document.sample (signedBy strangers signature) rfl
  have room : (Bytes.ofText ((signedBy strangers signature).text true)).length ≤ 1048576 := by
    omega
  have readable : (signedBy strangers signature).Readable :=
    Document.readable_of_maps Document.readable_sample.rootCas Document.readable_sample.pkiLogs
      (show (Json.ofDict Document.sample.rootCas).depth ≤ 126 by decide)
      (show (Json.ofDict Document.sample.pkiLogs).depth ≤ 126 by decide)
  exact Service.parse_text _ (Document.reachable_sample.sound.of_toBody rfl) readable room

theorem finds_strangersRun
    (small : ((signedBy strangers signature).project .signatures).extent .indented 1 ≤ 1000000)
    (apart : ∀ payload,
      Quorum.standings .ed25519 (signedBy strangers signature) Document.sample payload =
        strangers.map fun name => (name, .foreign)) :
    (strangersRun strangers signature).Finds (strangersTally strangers) .rejected
      (linesText (tallyLines (strangersTally strangers))) := by
  have tallied : (Quorum.tally .ed25519 (signedBy strangers signature) Document.sample).result =
      .ok (strangersTally strangers) := by
    refine Quorum.tally_eq_ok_iff.mpr ⟨_, Document.signingInput_eq _ false, ?_⟩
    rw [apart]
    exact collect_foreign strangers
  refine Verification.finds_of_parse (?_ : _ = Except.ok (signedBy strangers signature))
    (?_ : _ = Except.ok Document.sample) tallied
  -- The files are made plain beforehand, so that their texts are compared as they are.
  · simp only [strangersRun]
    exact parse_signedBy small
  · simp only [strangersRun]
    exact parse_sample

end

/-- Strangers with a separator in one name, a dash for a name and a line break in a name, and those
that they may be taken for. -/
def oddStrangers : List (List String) :=
  [["1-2, 1-3"], ["1-2", "1-3"], ["-"], [], ["1-2\n1-3"]]

theorem finds_oddStrangers : ∀ strangers ∈ oddStrangers,
    (strangersRun strangers [9]).Finds (strangersTally strangers) .rejected
      (linesText (tallyLines (strangersTally strangers))) := by
  have small : ∀ strangers ∈ oddStrangers,
      ((signedBy strangers [9]).project .signatures).extent .indented 1 ≤ 1000000 := by
    decide +kernel
  intro strangers odd
  refine finds_strangersRun (small strangers odd) fun payload => ?_
  revert strangers
  simp only [oddStrangers, List.forall_mem_cons]
  exact ⟨rfl, rfl, rfl, rfl, rfl, List.forall_mem_nil _⟩

/-! ## Reading back -/

/-- Two files that are read make a report of five parts, with a line break at the end of each and
those that signers have in their names.  Two runs with the same report require as many signatures,
have as many valid ones and come to the same verdict, and if both tallies are legible, they are the
same. -/
theorem report_read_back :
    (∀ (run : Verification) (candidate reference : Document),
      (run.service.parse run.compressed run.candidate).result = .ok candidate →
      (run.service.parse run.compressed run.reference).result = .ok reference →
      ∃ counted verdict report, run.Finds counted verdict report) ∧
    (∀ (run : Verification) counted verdict report, run.Finds counted verdict report →
      verdict = (if counted.isMet then .accepted else .rejected) ∧
      report = linesText (tallyLines counted) ∧
      lineBreaks report = 5 + lineBreaks (String.join (listedNames counted))) ∧
    ∀ (run run' : Verification) counted counted' verdict verdict' report,
      run.Finds counted verdict report → run'.Finds counted' verdict' report →
      counted.required = counted'.required ∧ counted.valid.length = counted'.valid.length ∧
      verdict = verdict' ∧ (Legible counted → Legible counted' → counted = counted') := by
  refine ⟨fun run candidate reference => Verification.exists_finds, ?_, ?_⟩
  · intro run counted verdict report found
    obtain ⟨rfl, rfl⟩ := found.report_eq
    refine ⟨rfl, rfl, ?_⟩
    rw [lineBreaks_linesText, lineBreaks_tallyLines]
    rfl
  · intro run run' counted counted' verdict verdict' report found found'
    obtain ⟨rfl, rfl⟩ := found.report_eq
    obtain ⟨rfl, same⟩ := found'.report_eq
    obtain ⟨achieved, required⟩ := numbers_of_tallyLines same
    refine ⟨required, achieved, ?_, ?_⟩
    · rw [Tally.isMet, Tally.isMet, achieved, required]
    · intro legible legible'
      exact tally_of_tallyLines legible legible' same

theorem report_read_back_strangers :
    ∃ counted counted' verdict verdict' report,
      (strangersRun ["1-2", "1-3"] [9]).Finds counted verdict report ∧
      (strangersRun ["1-2", "1-3"] [8, 8]).Finds counted' verdict' report ∧
      Legible counted ∧ Legible counted' ∧ counted = counted' ∧ verdict = verdict' ∧
      lineBreaks report = 5 + lineBreaks (String.join (listedNames counted)) := by
  have found := finds_oddStrangers ["1-2", "1-3"] (by simp [oddStrangers])
  have found' := @finds_strangersRun ["1-2", "1-3"] [8, 8] (by decide +kernel) fun _ => rfl
  have legible : Legible (strangersTally ["1-2", "1-3"]) :=
    ⟨by decide, by decide, by decide, by decide⟩
  obtain ⟨-, parts, same⟩ := report_read_back
  obtain ⟨-, -, verdict, tally⟩ := same _ _ _ _ _ _ _ found found'
  exact ⟨_, _, _, _, _, found, found', legible, legible, tally legible legible, verdict,
    (parts _ _ _ _ found).2.2⟩

/-- Different signers make the same report if one is called like two or like nobody, and a line
break in a name makes one more line. -/
theorem strangers_share_report :
    (∃ counted counted' verdict report,
      (strangersRun ["1-2, 1-3"] [9]).Finds counted verdict report ∧
      (strangersRun ["1-2", "1-3"] [9]).Finds counted' verdict report ∧
      counted.foreign ≠ counted'.foreign) ∧
    (∃ counted counted' verdict report, (strangersRun ["-"] [9]).Finds counted verdict report ∧
      (strangersRun [] [9]).Finds counted' verdict report ∧ counted.foreign ≠ counted'.foreign) ∧
    ∃ counted verdict report, (strangersRun ["1-2\n1-3"] [9]).Finds counted verdict report ∧
      lineBreaks report = 6 := by
  have finds := finds_oddStrangers
  simp only [oddStrangers, List.forall_mem_cons] at finds
  obtain ⟨joined, two, dash, nobody, broken, -⟩ := finds
  have sameNames : tallyLines (strangersTally ["1-2, 1-3"]) =
      tallyLines (strangersTally ["1-2", "1-3"]) := by decide
  have sameNobody : tallyLines (strangersTally ["-"]) = tallyLines (strangersTally []) := by decide
  rw [← sameNames] at two
  rw [← sameNobody] at nobody
  refine ⟨⟨_, _, _, _, joined, two, by decide⟩, ⟨_, _, _, _, dash, nobody, by decide⟩,
    ⟨_, _, _, broken, ?_⟩⟩
  rw [lineBreaks_linesText, lineBreaks_tallyLines]
  decide

end TrustRoot.Tool
