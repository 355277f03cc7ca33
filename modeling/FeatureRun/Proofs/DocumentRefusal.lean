import FeatureRun.Proofs.SessionTrace
import FeatureRun.Proofs.TokenFailures
import FeatureRun.Proofs.ValueFailures

/-!
What comes of a file as a document. A file that cannot be read, is not in UTF-8 or is at fault in
its form is refused, and a run of several files counts it and goes on. Some texts whose form is not
at fault have no value all the same; their failure escapes, and the run ends with it. Main
statement: `loadDocument_refusal`.
-/
namespace FeatureRun.Yaml
open FeatureRun.Number FeatureRun.Data

def Failure.isFault : Failure → Bool
  | .fault _ => true
  | _ => false

/-- Why a text has no value although its form is not at fault: an escape for no code point, a
version of too many digits, containers that nest too deep, or a node without a value. -/
inductive Escape (s : List Char) : Failure → Prop
  | codePoint {n : Nat} : (tokens s).2 = some (.codePoint n) → 0x10FFFF < n →
      Escape s (.codePoint n)
  | version {digits : Nat} :
      (tokens s).2 = some (.cast (.conversion (.tooManyDigits (some digits)))) →
      digitLimit < digits → Escape s (.cast (.conversion (.tooManyDigits (some digits))))
  | nesting : Document.ofText s = .error .tooDeep → Escape s .tooDeep
  | value {d : Document} {e : Failure} : Document.ofText s = .ok (some d) →
      Unreadable d.nodes e → Escape s e

private theorem ofText_escape {s : List Char} {e : Failure} (h : Document.ofText s = .error e)
    (he : e.isFault = false) : Escape s e := by
  have htokens : Reading.FormFailure (tokens s).2 e := by
    unfold Document.ofText at h
    split at h
    · exact Document.ofTokens_failure h
    · cases h
      cases he
  cases htokens with
  | fault f => cases he
  | tooDeep => exact .nesting h
  | tokens hbehind =>
    cases tokens_failure hbehind with
    | fault f => cases he
    | codePoint hn => exact .codePoint hbehind hn
    | version hdigits => exact .version hbehind hdigits

private theorem readDocument_escape {s : List Char} {e : Failure} (h : readDocument s = .error e)
    (he : e.isFault = false) : Escape s e := by
  unfold readDocument at h
  rcases hd : Document.ofText s with e' | _ | d <;> rw [hd] at h
  · cases h
    exact ofText_escape hd he
  · cases h
  · exact .value hd (Document.value_failure h)

end FeatureRun.Yaml

namespace FeatureRun.Run
open FeatureRun.Text FeatureRun.Data FeatureRun.Files

def HoldsText (files : Tree) (path : Path) (s : List Char) : Prop :=
  ∃ content decoded, files.read path = .ok content ∧ decodeUtf8 content = .ok decoded ∧
    unifyLineEnds decoded = s

inductive Decoding (files : Tree) (path : Path) : Except Failure Value → Prop
  | unread {e : FileError} {error : LoadError} : files.read path = .error (.file e) →
      error.kind = "SpecFileError" → Decoding files path (.error (.load error))
  | notUtf8 {content : List UInt8} {fault : Utf8Fault} : files.read path = .ok content →
      decodeUtf8 content = .error fault →
      Decoding files path (.error (.load (.notUtf8 path fault)))
  | notYaml {s : List Char} {fault : Yaml.Fault} : HoldsText files path s →
      Yaml.readDocument s = .error (.fault fault) →
      Decoding files path (.error (.load (.notYaml path fault)))
  | value {s : List Char} {v : Value} : HoldsText files path s → Yaml.readDocument s = .ok v →
      Decoding files path (.ok v)
  | escape {s : List Char} {e : Yaml.Failure} : HoldsText files path s →
      Yaml.readDocument s = .error e → e.isFault = false → Yaml.Escape s e →
      Decoding files path (.error (Failure.ofYaml path e))

private theorem ofYaml_load {path : Path} {e : Yaml.Failure} {error : LoadError}
    (h : Failure.ofYaml path e = .load error) : e.isFault = true := by
  cases e <;> first | rfl | cases h

/-- Only a path with the character that ends names is not looked up. -/
private theorem read_failure {files : Tree} {path : Path} (hp : '\x00' ∉ path.text.toList)
    {e : FileFailure} (h : files.read path = .error e) : ∃ error, e = .file error := by
  unfold Tree.read Tree.onPlace at h
  rw [if_neg (by simpa using hp)] at h
  split at h
  · cases h
  · cases h
    exact ⟨_, rfl⟩

private theorem loadDocument_decoding (files : Tree) (path : Path)
    (hp : '\x00' ∉ path.text.toList) :
    Decoding files path (loadDocument files path) := by
  unfold loadDocument
  split
  · rename_i hread
    exact .unread hread rfl
  · rename_i hread
    exact .unread hread rfl
  · rename_i hread
    obtain ⟨e, he⟩ := read_failure hp hread
    cases he
  · rename_i content hread
    split
    · rename_i fault hdecode
      exact .notUtf8 hread hdecode
    · rename_i decoded hdecode
      have htext : HoldsText files path (unifyLineEnds decoded) :=
        ⟨content, decoded, hread, hdecode, rfl⟩
      cases hy : Yaml.readDocument (unifyLineEnds decoded) with
      | ok v => exact .value htext hy
      | error e =>
        cases hf : e.isFault with
        | false => exact .escape htext hy hf (Yaml.readDocument_escape hy hf)
        | true =>
          cases e <;> first | exact .notYaml htext hy | cases hf

private theorem loadDocument_text {files : Tree} {path : Path} {s : List Char}
    (h : HoldsText files path s) :
    loadDocument files path = (Yaml.readDocument s).mapError (Failure.ofYaml path) := by
  obtain ⟨content, decoded, hread, hdecode, rfl⟩ := h
  simp only [loadDocument, hread, hdecode]

private theorem loadSpec_error {files : Tree} {path : Path} {e : Failure}
    (h : loadDocument files path = .error e) : loadSpec files path = .error e := by
  rw [loadSpec, h]
  rfl

/-- A file that is no spec is counted, and the run goes on with the next. -/
theorem runSpecs_refused {files : Tree} {path : Path} {error : LoadError}
    (h : loadDocument files path = .error (.load error)) (o : Options) (s : Summary)
    (rest : List Path) (w : World) (hw : w.files = files) :
    outcome (runSpecs o s (path :: rest)) w =
      outcome (runSpecs o s.addLoadFailure rest)
        { w with notices := w.notices ++ [.loadFailed path error.message] } := by
  subst hw
  rw [outcome_runSpecs_cons, outcome_addSpecFile, outcome_runSpecFile, loadSpec_error h]
  rfl

/-- A failure that is no refusal ends the run. -/
theorem runSpecs_escaped {files : Tree} {path : Path} {e : Failure}
    (h : loadDocument files path = .error e) (he : ∀ error, e ≠ .load error) (o : Options)
    (s : Summary) (rest : List Path) (w : World) (hw : w.files = files) :
    outcome (runSpecs o s (path :: rest)) w = (.error e, w) := by
  subst hw
  rw [outcome_runSpecs_cons, outcome_addSpecFile, outcome_runSpecFile, loadSpec_error h]
  cases e <;> first | rfl | exact absurd rfl (he _)

/-- A text that escapes: it has no value, and its form is not at fault. -/
def Escapes (files : Tree) (path : Path) (e : Yaml.Failure) : Prop :=
  ∃ s, HoldsText files path s ∧ Yaml.readDocument s = .error e ∧ e.isFault = false

/-- Reading a file as a document gives a value or a refusal exactly if its text does not escape. A
refusal is counted by a run, which goes on with the next file; a text that escapes ends it. -/
theorem loadDocument_refusal (files : Tree) (path : Path) (hp : '\x00' ∉ path.text.toList) :
    Decoding files path (loadDocument files path) ∧
      (((∃ v, loadDocument files path = .ok v) ∨
          ∃ error, loadDocument files path = .error (.load error)) ↔
        ¬ ∃ e, Escapes files path e) ∧
      ∀ (o : Options) (summary : Summary) (rest : List Path) (w : World), w.files = files →
        (∀ error, loadDocument files path = .error (.load error) →
          outcome (runSpecs o summary (path :: rest)) w =
            outcome (runSpecs o summary.addLoadFailure rest)
              { w with notices := w.notices ++ [.loadFailed path error.message] }) ∧
        ∀ e, Escapes files path e →
          outcome (runSpecs o summary (path :: rest)) w = (.error (Failure.ofYaml path e), w) := by
  have hcases := loadDocument_decoding files path hp
  have hescaped {e : Yaml.Failure} (h : Escapes files path e) :
      loadDocument files path = .error (Failure.ofYaml path e) ∧
        ∀ error, Failure.ofYaml path e ≠ .load error := by
    obtain ⟨s, htext, hread, hfault⟩ := h
    refine ⟨?_, fun error h => ?_⟩
    · rw [loadDocument_text htext, hread]
      rfl
    · rw [ofYaml_load h] at hfault
      cases hfault
  refine ⟨hcases, ⟨?_, ?_⟩, fun o summary rest w hw => ⟨fun error h => ?_, fun e h => ?_⟩⟩
  · rintro hcontract ⟨e, h⟩
    obtain ⟨hload, hother⟩ := hescaped h
    rw [hload] at hcontract
    rcases hcontract with ⟨v, hv⟩ | ⟨error, herror⟩
    · cases hv
    · exact hother error (Except.error.inj herror)
  · intro hnone
    generalize hload : loadDocument files path = r at hcases
    cases hcases with
    | unread _ _ => exact .inr ⟨_, rfl⟩
    | notUtf8 _ _ => exact .inr ⟨_, rfl⟩
    | notYaml _ _ => exact .inr ⟨_, rfl⟩
    | value _ _ => exact .inl ⟨_, rfl⟩
    | escape htext hread hfault _ => exact absurd ⟨_, _, htext, hread, hfault⟩ hnone
  · exact runSpecs_refused h o summary rest w hw
  · obtain ⟨hload, hother⟩ := hescaped h
    exact runSpecs_escaped hload hother o summary rest w hw

/-- Two spec files: a list that does not end, and a day in a month that there is none of. -/
def brokenWorld : World where
  page := {}
  files := {
    nodes := [(["list.yaml"], .file "[".toUTF8.toList),
      (["day.yaml"], .file "2024-13-45\n".toUTF8.toList)]
    workingDirectory := [] }
  picks := ⟨[0], 0⟩

def failure? {ε α : Type} : Except ε α → Option ε
  | .ok _ => none
  | .error e => some e

private theorem of_failure? {ε α : Type} {r : Except ε α} {e : ε} (h : failure? r = some e) :
    r = .error e := by
  cases r with
  | ok x => cases h
  | error e' => exact congrArg _ (Option.some.inj h)

theorem loadDocument_refusal_list :
    (outcome (runSpecs {} {} [Path.ofString "list.yaml"]) brokenWorld).1 =
      .ok (Summary.addLoadFailure {}) := by
  obtain ⟨_, _, hrun⟩ := loadDocument_refusal brokenWorld.files (Path.ofString "list.yaml")
    (by decide)
  have hload : loadDocument brokenWorld.files (Path.ofString "list.yaml") =
      .error (.load (.notYaml (Path.ofString "list.yaml") .order)) :=
    of_failure? (by decide +kernel)
  rw [(hrun {} {} [] brokenWorld rfl).1 _ hload]
  rfl

/-- A day in a month that there is none of is no refusal, and the next file is not run. -/
theorem calendar_escapes :
    loadDocument brokenWorld.files (Path.ofString "day.yaml") = .error (.calendar .month) ∧
      outcome (runSpecs {} {} [Path.ofString "day.yaml", Path.ofString "list.yaml"]) brokenWorld =
        (.error (.calendar .month), brokenWorld) := by
  have hload : loadDocument brokenWorld.files (Path.ofString "day.yaml") =
      .error (.calendar .month) := of_failure? (by decide +kernel)
  exact ⟨hload, runSpecs_escaped hload nofun {} {} _ brokenWorld rfl⟩

end FeatureRun.Run
