import ResourcePolicy.Proofs.ErrorTexts
import ResourcePolicy.Proofs.PositionalForm
import ResourcePolicy.Report

/-!
# What a report tells

A row that is written as an object is read back as it was, and an object that lacks one of its
fields is no row. So a report hands over just what the evaluation gave: its row is read as that
evaluation, or its error is that of the evaluation. Two events account for it, and the second tells
of the same outcome.
-/

namespace ResourcePolicy

namespace Json

/-- An array of texts is read back. -/
theorem asStrings_strings (texts : List String) : asStrings (strings texts) = .ok texts := by
  change (texts.map str).mapM asString = _
  rw [mapM_eq_ok_iff, List.map_map]
  rfl

/-- An object without its member of a name. -/
def without (name : String) : Json → Json
  | obj members => obj (members.filter fun member => member.1 ≠ name)
  | other => other

/-- The members of the object without a name are those of the map without it. -/
theorem without_toList (m : KeyMap Json) (name : String) :
    (obj m.toList).without name = obj (m.erase name).toList :=
  rfl

end Json

namespace Evaluation

/-- The fields of a row are written under their names. -/
theorem map_fst_members (e : Evaluation) : e.members.map Prod.fst = fieldNames := rfl

/-- The names of the fields with their values are the members of a row. -/
theorem zip_fieldNames (e : Evaluation) : fieldNames.zip (e.members.map Prod.snd) = e.members :=
  List.zip_of_prod e.map_fst_members rfl

/-- A written row has exactly the members that are fields. -/
theorem get?_members_ne_none_iff (e : Evaluation) (name : String) :
    (KeyMap.ofList e.members).get? name ≠ none ↔ name ∈ fieldNames := by
  rw [ne_eq, KeyMap.get?_ofList_eq_none_iff, map_fst_members, not_not]

/-- The values of a row are read back as the row. -/
theorem ofJson_values (e : Evaluation) : ofJson (.arr (e.members.map Prod.snd)) = .ok e := by
  refine Record.ofItems_eq_ok_iff.mpr ⟨?_, Nat.le_refl _, fun _ => Nat.le_refl _⟩
  simp only [record, Field.of, members, List.map_cons, List.map_nil, List.zip_cons_cons,
    List.zip_nil_left, Record.readFields_cons_eq_bind, List.lookup_cons, String.reduceBEq,
    Json.memberOr_some, Json.asString, Json.asBool, Json.asStrings_strings, map_ok, ok_bind]
  rfl

/-- A row is read from an object by its members. -/
theorem ofJson_toList (members : KeyMap Json) :
    ofJson (.obj members.toList) = record.ofMembers members := by
  change record.ofMembers (KeyMap.ofList members.toList) = _
  rw [KeyMap.ofList_toList]

/-- A written row is read back as it was. -/
theorem ofJson_toJson (e : Evaluation) : ofJson e.toJson = .ok e := by
  have hread := (ofJson_arr_eq_ok_iff.mp e.ofJson_values).2
  rw [zip_fieldNames] at hread
  exact (ofJson_toList (KeyMap.ofList e.members)).trans hread

/-- A written row from which a field is removed is not read for want of that field. -/
theorem ofJson_without (e : Evaluation) {name : String} (hname : name ∈ fieldNames) :
    ofJson (e.toJson.without name) = .error (.missingField name) := by
  have hread : record.ofMembers (KeyMap.ofList e.members) = .ok e :=
    (ofJson_toList _).symm.trans e.ofJson_toJson
  have hwithout : e.toJson.without name = .obj ((KeyMap.ofList e.members).erase name).toList :=
    Json.without_toList _ name
  rw [hwithout, ofJson_toList, Record.ofMembers_erase rfl hname hread]

end Evaluation

namespace Event

/-- An event as it is logged: its fields in ascending order of their names, and its level. -/
def logged (level : String) (fields : List (String × Json)) : Json :=
  .obj [("fields", .obj fields), ("level", .str level)]

/-- An event is logged with its fields in order. -/
theorem toJson_eq_logged {event : Event} {fields : List (String × Json)}
    (hfields : event.fields = .obj fields) : event.toJson = logged event.level.name fields := by
  simp only [toJson, hfields, logged, Json.object, KeyMap.toList_ofList, List.foldl_cons,
    List.foldl_nil, insertAscending, String.reduceLT, if_true]

/-- The request is logged with its source, the owner, the mode and the size of the policy. -/
theorem toJson_request (source : Source) (mode : Mode) :
    (request source mode).toJson = logged "DEBUG" [
      ("event", .str "PolicyEvaluation"),
      ("mode", .str (if mode = .legacy then "legacy" else "condition_aware")),
      ("owner", .str source.ownerText), ("phase", .str "Request"),
      ("policy_bytes", .num (.int source.policyText.utf8ByteSize)),
      ("source", .str source.name)] := by
  have hmode : mode.toJson = .str (if mode = .legacy then "legacy" else "condition_aware") := by
    cases mode <;> rfl
  refine toJson_eq_logged ?_
  simp only [fields, details, phase, hmode, Json.objectOf, List.filterMap_cons, Option.map_some,
    List.filterMap_nil, Json.object, KeyMap.toList_ofList, List.foldl_cons, List.foldl_nil,
    insertAscending, String.reduceLT, String.reduceEq, if_true, if_false]

/-- A result is logged with what it is about. -/
theorem toJson_result (source : Source) (evaluation : Evaluation) :
    (result source evaluation).toJson = logged "DEBUG" [
      ("event", .str "PolicyEvaluation"), ("is_public", .bool evaluation.isPublic),
      ("phase", .str "Result"), ("principals", .num (.int evaluation.principals.length)),
      ("public_statements", .str (quotedList evaluation.publicStatementIds)),
      ("source", .str source.name)] := by
  refine toJson_eq_logged ?_
  simp only [fields, details, phase, Json.objectOf, List.filterMap_cons, Option.map_some,
    List.filterMap_nil, Json.object, KeyMap.toList_ofList, List.foldl_cons, List.foldl_nil,
    insertAscending, String.reduceLT, String.reduceEq, if_true, if_false]

/-- A failure is logged with the text of the error, if there is one. -/
theorem toJson_failed (source : Source) (error : PolicyError) :
    (failed source error).toJson = logged "WARN"
      ((error.message?.toList.map fun text => ("error", .str text)) ++ [
        ("event", .str "PolicyEvaluation"), ("owner", .str source.ownerText),
        ("phase", .str "Failed"), ("source", .str source.name)]) := by
  refine toJson_eq_logged ?_
  cases hmessage : error.message? <;>
    simp only [fields, details, phase, hmessage, Json.objectOf, List.filterMap_cons,
      Option.map_some, Option.map_none, List.filterMap_nil, Json.object, KeyMap.toList_ofList,
      List.foldl_cons, List.foldl_nil, insertAscending, String.reduceLT, String.reduceEq, if_true,
      if_false] <;>
    rfl

end Event

namespace Evaluator

variable {evaluator : Evaluator} {source : Source}

/-- A source that is evaluated is reported by its row. -/
theorem report_of_ok {evaluation : Evaluation}
    (hok : evaluator.evaluate source.policyText source.ownerText = .ok evaluation) :
    evaluator.report source =
      ⟨.ok evaluation.toJson, [.request source evaluator.mode, .result source evaluation]⟩ := by
  rw [report, hok]

/-- A source that is not evaluated is reported by its error. -/
theorem report_of_error {error : PolicyError}
    (herror : evaluator.evaluate source.policyText source.ownerText = .error error) :
    evaluator.report source =
      ⟨.error error, [.request source evaluator.mode, .failed source error]⟩ := by
  rw [report, herror]

/-- The row of a report is the evaluation as it is written. -/
theorem report_row_eq_ok_iff {row : Json} :
    (evaluator.report source).row = .ok row ↔ ∃ evaluation,
      evaluator.evaluate source.policyText source.ownerText = .ok evaluation ∧
        evaluation.toJson = row := by
  cases hanswer : evaluator.evaluate source.policyText source.ownerText with
  | ok evaluation =>
    rw [report_of_ok hanswer]
    simp only [Except.ok.injEq, exists_eq_left']
  | error error =>
    rw [report_of_error hanswer]
    simp only [reduceCtorEq, false_and, exists_false]

/-- The error of a report is that of the evaluation. -/
theorem report_row_eq_error_iff {error : PolicyError} :
    (evaluator.report source).row = .error error ↔
      evaluator.evaluate source.policyText source.ownerText = .error error := by
  cases hanswer : evaluator.evaluate source.policyText source.ownerText with
  | ok evaluation =>
    rw [report_of_ok hanswer]
    exact iff_of_false nofun nofun
  | error other =>
    rw [report_of_error hanswer]
    simp only [Except.error.injEq]

/-- A report hands over what the evaluation gave and accounts for it by two events, and a row is
read back as it was written unless a field is removed. -/
theorem report_accounts_for_evaluation (evaluator : Evaluator) (source : Source) :
    let report := evaluator.report source
    let answer := evaluator.evaluate source.policyText source.ownerText
    let request := Event.logged "DEBUG" [
      ("event", .str "PolicyEvaluation"),
      ("mode", .str (if evaluator.mode = .legacy then "legacy" else "condition_aware")),
      ("owner", .str source.ownerText), ("phase", .str "Request"),
      ("policy_bytes", .num (.int source.policyText.utf8ByteSize)),
      ("source", .str source.name)]
    -- There is a row iff there is an evaluation, and else there is the same error.
    ((∃ row, report.row = .ok row) ↔ ∃ evaluation, answer = .ok evaluation) ∧
    (∀ error, report.row = .error error ↔ answer = .error error) ∧
    -- The row has all fields and is read as the evaluation, and the second event tells of it. The
    -- public statements can be told from what is shown of them.
    (∀ row, report.row = .ok row → ∃ evaluation, answer = .ok evaluation ∧
      Evaluation.ofJson row = .ok evaluation ∧
      (∃ members, row = .obj members ∧
        ∀ name, (KeyMap.ofList members).get? name ≠ none ↔ name ∈ Evaluation.fieldNames) ∧
      ∃ shown, IsQuotedList evaluation.publicStatementIds shown ∧
        (∀ ids, IsQuotedList ids shown → ids = evaluation.publicStatementIds) ∧
        report.events.map Event.toJson = [request, Event.logged "DEBUG" [
          ("event", .str "PolicyEvaluation"), ("is_public", .bool evaluation.isPublic),
          ("phase", .str "Result"), ("principals", .num (.int evaluation.principals.length)),
          ("public_statements", .str shown), ("source", .str source.name)]]) ∧
    -- The second event tells the text of the error, if it has one.
    (∀ error, report.row = .error error → ∃ text?, error.IsToldAs text? ∧
      report.events.map Event.toJson = [request, Event.logged "WARN"
        ((text?.toList.map fun text => ("error", .str text)) ++ [
          ("event", .str "PolicyEvaluation"), ("owner", .str source.ownerText),
          ("phase", .str "Failed"), ("source", .str source.name)])]) ∧
    -- Every row is read back as it was written, and without one of its fields it is not read.
    (∀ e : Evaluation, Evaluation.ofJson e.toJson = .ok e) ∧
    ∀ (e : Evaluation), ∀ name ∈ Evaluation.fieldNames,
      Evaluation.ofJson (e.toJson.without name) = .error (.missingField name) := by
  intro report answer request
  refine ⟨?_, fun _ => report_row_eq_error_iff, fun row hrow => ?_, fun error herror => ?_,
    Evaluation.ofJson_toJson, fun e _ hname => e.ofJson_without hname⟩
  · simp only [report, report_row_eq_ok_iff]
    exact ⟨fun ⟨_, evaluation, hok, _⟩ => ⟨evaluation, hok⟩,
      fun ⟨evaluation, hok⟩ => ⟨_, evaluation, hok, rfl⟩⟩
  · obtain ⟨evaluation, hok, rfl⟩ := report_row_eq_ok_iff.mp hrow
    have hshown : IsQuotedList evaluation.publicStatementIds
        (quotedList evaluation.publicStatementIds) := isQuotedList_iff.mpr rfl
    refine ⟨evaluation, hok, evaluation.ofJson_toJson, ⟨_, rfl, fun name => ?_⟩, _, hshown,
      fun _ hids => hids.inj hshown, ?_⟩
    · rw [KeyMap.ofList_toList, evaluation.get?_members_ne_none_iff]
    · simp only [report, report_of_ok hok, List.map_cons, List.map_nil, Event.toJson_request,
        Event.toJson_result, request]
  · have hanswer := report_row_eq_error_iff.mp herror
    refine ⟨error.message?, isToldAs_of_evaluate hanswer, ?_⟩
    simp only [report, report_of_error hanswer, List.map_cons, List.map_nil, Event.toJson_request,
      Event.toJson_failed, request]

/-- A queue that is open to everyone, a queue whose owner is not an account, a text that is not a
policy, and a row without one of its fields. -/
theorem report_accounts_for_evaluation_of_open_queue :
    let text := "\x7b\"Statement\":\x7b\"Effect\":\"Allow\",\"Principal\":\"*\"\x7d\x7d"
    let valid : Source := { policyText := text, ownerText := "012345678901", name := "queue" }
    let invalid : Source := { policyText := text, ownerText := "12345", name := "queue" }
    let malformed : Source := { policyText := "[]", ownerText := "012345678901" }
    let row : Evaluation := {
      principals := ["*"], accountIds := ["*"], isPublic := true
      publicStatementIds := ["Statement[1]"] }
    ((Evaluator.report ⟨.conditionAware⟩ valid).row = .ok row.toJson ∧
      Evaluation.ofJson row.toJson = .ok row ∧
      (Evaluator.report ⟨.conditionAware⟩ valid).events.map Event.toJson = [
        Event.logged "DEBUG" [
          ("event", .str "PolicyEvaluation"), ("mode", .str "condition_aware"),
          ("owner", .str "012345678901"), ("phase", .str "Request"),
          ("policy_bytes", .num (.int 48)), ("source", .str "queue")],
        Event.logged "DEBUG" [
          ("event", .str "PolicyEvaluation"), ("is_public", .bool true), ("phase", .str "Result"),
          ("principals", .num (.int 1)), ("public_statements", .str "[\"Statement[1]\"]"),
          ("source", .str "queue")]]) ∧
    ((Evaluator.report ⟨.legacy⟩ invalid).row = .error (.invalidAccountId "12345") ∧
      (Evaluator.report ⟨.legacy⟩ invalid).events.map Event.toJson = [
        Event.logged "DEBUG" [
          ("event", .str "PolicyEvaluation"), ("mode", .str "legacy"), ("owner", .str "12345"),
          ("phase", .str "Request"), ("policy_bytes", .num (.int 48)), ("source", .str "queue")],
        Event.logged "WARN" [
          ("error", .str "source account id is invalid: 12345"),
          ("event", .str "PolicyEvaluation"), ("owner", .str "12345"), ("phase", .str "Failed"),
          ("source", .str "queue")]]) ∧
    (∃ error, (Evaluator.report ⟨.legacy⟩ malformed).row = .error error ∧
      (Evaluator.report ⟨.legacy⟩ malformed).events.map Event.toJson = [
        Event.logged "DEBUG" [
          ("event", .str "PolicyEvaluation"), ("mode", .str "legacy"),
          ("owner", .str "012345678901"), ("phase", .str "Request"),
          ("policy_bytes", .num (.int 2)), ("source", .str "")],
        Event.logged "WARN" [
          ("error", .str "invalid policy document: expected an object, found an array"),
          ("event", .str "PolicyEvaluation"), ("owner", .str "012345678901"),
          ("phase", .str "Failed"), ("source", .str "")]]) ∧
    "is_public" ∈ Evaluation.fieldNames ∧
      Evaluation.ofJson (row.toJson.without "is_public") = .error (.missingField "is_public") := by
  intro text valid invalid malformed row
  have hbytes : text.utf8ByteSize = 48 := by decide +kernel
  have hvalid : Evaluator.evaluate ⟨.conditionAware⟩ text "012345678901" = .ok row := by
    decide +kernel
  have hinvalid : Evaluator.evaluate ⟨.legacy⟩ text "12345" =
      .error (.invalidAccountId "12345") := by decide +kernel
  have hmalformed : Evaluator.evaluate ⟨.legacy⟩ "[]" "012345678901" =
      .error (.malformedPolicy (.shape (.notADocument .arr))) := by decide +kernel
  have hids : IsQuotedList ["Statement[1]"] "[\"Statement[1]\"]" :=
    ⟨["\"Statement[1]\""], .cons (isQuoted_of_plain (by decide)) .nil, by decide⟩
  obtain ⟨-, -, hrow, -, hread, hwithout⟩ := report_accounts_for_evaluation ⟨.conditionAware⟩ valid
  obtain ⟨-, herror, -, hfailed, -, -⟩ := report_accounts_for_evaluation ⟨.legacy⟩ invalid
  obtain ⟨-, hother, -, hrefused, -, -⟩ := report_accounts_for_evaluation ⟨.legacy⟩ malformed
  have hanswer : (Evaluator.report ⟨.conditionAware⟩ valid).row = .ok row.toJson :=
    report_row_eq_ok_iff.mpr ⟨row, hvalid, rfl⟩
  have hfield : "is_public" ∈ Evaluation.fieldNames := by decide
  refine ⟨⟨hanswer, hread row, ?_⟩, ⟨(herror _).mpr hinvalid, ?_⟩,
    ⟨_, (hother _).mpr hmalformed, ?_⟩, hfield, hwithout row _ hfield⟩
  · obtain ⟨evaluation, hevaluation, -, -, shown, hshown, -, hevents⟩ := hrow _ hanswer
    cases hvalid.symm.trans hevaluation
    obtain rfl : shown = "[\"Statement[1]\"]" :=
      (isQuotedList_iff.mp hshown).trans (isQuotedList_iff.mp hids).symm
    simp only [hevents, valid, row, hbytes]
    rfl
  · obtain ⟨_, ⟨-⟩, hevents⟩ := hfailed _ ((herror _).mpr hinvalid)
    simp only [hevents, invalid, hbytes]
    rfl
  · obtain ⟨_, htold, hevents⟩ := hrefused _ ((hother _).mpr hmalformed)
    cases htold with
    | shape hshape =>
      cases hshape with
      | notADocument hkind =>
        cases hkind
        simp only [hevents, malformed]
        rfl

end Evaluator

end ResourcePolicy
