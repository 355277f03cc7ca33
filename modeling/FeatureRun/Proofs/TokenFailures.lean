import FeatureRun.Proofs.NumberLimits
import FeatureRun.Yaml.TokenStream

/-!
How the tokens of a text can fail. Besides the faults of form there are two failures: an escape may
ask for a code point behind the last one, and a version may have more digits than are read. Main
statement: `tokens_failure`.
-/
namespace FeatureRun.Yaml
open FeatureRun.Text FeatureRun.Number FeatureRun.Data

inductive TokenFailure : Failure → Prop
  | fault (f : Fault) : TokenFailure (.fault f)
  | codePoint {n : Nat} : 0x10FFFF < n → TokenFailure (.codePoint n)
  | version {digits : Nat} : digitLimit < digits →
      TokenFailure (.cast (.conversion (.tooManyDigits (some digits))))

def Tokenizes {α : Type} (r : Except Failure α) : Prop := ∀ e, r = .error e → TokenFailure e

namespace Tokenizes
variable {α β : Type}

theorem ok (x : α) : Tokenizes (.ok x) := nofun

theorem fault (f : Fault) : Tokenizes (.error (.fault f) : Except Failure α) := by
  rintro e ⟨⟩
  exact .fault f

theorem scannerFault : Tokenizes (scannerFault : Except Failure α) := fault .scanner

theorem bind {r : Except Failure α} {f : α → Except Failure β} (h : Tokenizes r)
    (hf : ∀ x, Tokenizes (f x)) : Tokenizes (r >>= f) := by
  intro e he
  cases r with
  | ok x => exact hf x e he
  | error e' =>
    cases he
    exact h _ rfl

theorem ite {c : Prop} [Decidable c] {r r' : Except Failure α} (h : Tokenizes r)
    (h' : Tokenizes r') : Tokenizes (if c then r else r') := by
  split
  · exact h
  · exact h'

end Tokenizes

section Quoted

private theorem codePointOf_tokenizes (n : Nat) : Tokenizes (codePointOf n) := by
  intro e he
  unfold codePointOf at he
  split at he
  · cases he
  · rename_i hnone
    cases he
    unfold CodePoint.ofCode? at hnone
    split at hnone
    · cases hnone
    · split at hnone
      · cases hnone
      · exact .codePoint (Nat.lt_of_not_le ‹_›)

private theorem quotedBreaks_tokenizes (n : Nat) (c : Cursor) : Tokenizes (quotedBreaks n c) := by
  induction n generalizing c with
  | zero => exact .scannerFault
  | succ n ih =>
    unfold quotedBreaks
    refine .ite .scannerFault ?_
    dsimp only
    split
    · exact .ok _
    · exact (ih _).bind fun _ => .ok _

private theorem quotedGap_tokenizes (c : Cursor) : Tokenizes (quotedGap c) := by
  unfold quotedGap
  dsimp only
  split
  · exact (quotedBreaks_tokenizes _ _).bind fun _ => .ok _
  · exact .ok _

private theorem quotedEscape_tokenizes (c : Cursor) : Tokenizes (quotedEscape c) := by
  unfold quotedEscape
  split
  · exact .scannerFault
  · split
    · exact .ok _
    · split
      · exact .scannerFault
      · split
        · exact (codePointOf_tokenizes _).bind fun _ => .ok _
        · exact .scannerFault
    · exact (quotedBreaks_tokenizes _ _).bind fun _ => .ok _
    · exact .scannerFault

private theorem quotedText_tokenizes (quote : Char) (c : Cursor) :
    Tokenizes (quotedText quote c) := by
  unfold quotedText
  generalize c.rest.length + 1 = n
  induction n generalizing c with
  | zero => exact .scannerFault
  | succ n ih =>
    unfold quotedFrom
    split
    · exact .scannerFault
    · split
      · exact .ok _
      · have hrest (p : List CodePoint × Cursor) : Tokenizes (do
            let r ← quotedFrom quote n p.2
            .ok (p.1 ++ r.1, r.2)) := (ih _).bind fun _ => .ok _
        dsimp only
        refine .ite (.bind (.ok _) hrest) (.ite ?_ (.ite ?_ (.bind (.ok _) hrest)))
        · exact (quotedEscape_tokenizes _).bind hrest
        · exact (quotedGap_tokenizes _).bind hrest

end Quoted

section Blocks

private theorem restOfLine_tokenizes (c : Cursor) : Tokenizes (restOfLine c) := by
  unfold restOfLine
  refine .ite (.ok _) ?_
  split
  · exact .ok _
  · exact .scannerFault

private theorem takeIndent_tokenizes (c : Cursor) : Tokenizes (takeIndent c) := by
  unfold takeIndent
  split
  · exact .ite .scannerFault (.ite (.ok _) (.ok _))
  · exact .ok _

private theorem blockHeader_tokenizes (c : Cursor) : Tokenizes (blockHeader c) := by
  unfold blockHeader
  refine (takeIndent_tokenizes _).bind fun _ => ?_
  exact .ite ((restOfLine_tokenizes _).bind fun _ => .ok _) .scannerFault

private theorem blockText_tokenizes (folded : Bool) (least : Nat) (c : Cursor) :
    Tokenizes (blockText folded least c) := by
  unfold blockText
  refine (blockHeader_tokenizes c).bind fun _ => ?_
  exact .ok _

end Blocks

section Marks

private theorem takeName_tokenizes (c : Cursor) : Tokenizes (takeName c) := by
  unfold takeName
  exact .ite .scannerFault (.ok _)

private theorem expectOnly_tokenizes (p : Char → Bool) (c : Cursor) :
    Tokenizes (expectOnly p c) := by
  unfold expectOnly
  exact .ite (.ok _) .scannerFault

private theorem anchorName_tokenizes (c : Cursor) : Tokenizes (anchorName c) := by
  unfold anchorName
  refine (takeName_tokenizes c).bind fun _ => ?_
  exact (expectOnly_tokenizes _ _).bind fun _ => .ok _

private theorem escapedBytes_tokenizes (n : Nat) (c : Cursor) : Tokenizes (escapedBytes n c) := by
  induction n generalizing c with
  | zero => exact .scannerFault
  | succ n ih =>
    unfold escapedBytes
    split
    · split
      · exact (ih _).bind fun _ => .ok _
      · exact .scannerFault
    · exact .scannerFault
    · exact .ok _

private theorem addressFrom_tokenizes (n : Nat) (c : Cursor) : Tokenizes (addressFrom n c) := by
  induction n generalizing c with
  | zero => exact .scannerFault
  | succ n ih =>
    unfold addressFrom
    refine .ite ((escapedBytes_tokenizes _ _).bind fun ⟨bytes, c⟩ => ?_) (.ok _)
    dsimp only
    split
    · exact (ih _).bind fun _ => .ok _
    · exact .scannerFault

private theorem takeAddress_tokenizes (c : Cursor) : Tokenizes (takeAddress c) := by
  unfold takeAddress
  exact .ite (addressFrom_tokenizes _ _) .scannerFault

private theorem takeHandle_tokenizes (c : Cursor) : Tokenizes (takeHandle c) := by
  unfold takeHandle
  split
  · exact .ok _
  · exact .ite (.ok _) .scannerFault
  · exact .scannerFault

private theorem takeTag_tokenizes (c : Cursor) : Tokenizes (takeTag c) := by
  have hend (r : Token × Cursor) : Tokenizes (do
      expectOnly isSpaceOrBreak r.2
      .ok (r.1, r.2)) := (expectOnly_tokenizes _ _).bind fun _ => .ok _
  unfold takeTag
  refine .ite ((takeAddress_tokenizes _).bind fun _ => ?_) (.ite (.bind (.ok _) hend) (.ite ?_ ?_))
  · exact .ite (.bind (.ok _) hend) (.bind .scannerFault hend)
  · refine (takeHandle_tokenizes _).bind fun _ => ?_
    exact (takeAddress_tokenizes _).bind fun _ => .bind (.ok _) hend
  · exact (takeAddress_tokenizes _).bind fun _ => .bind (.ok _) hend

private theorem takeVersionNumber_tokenizes (c : Cursor) : Tokenizes (takeVersionNumber c) := by
  unfold takeVersionNumber
  dsimp only
  split
  · exact .scannerFault
  · rename_i hsome
    have hdigits : ∀ d ∈ (c.span Char.isDigit).1, isDecimal d = true := fun d hd =>
      isDecimal_of_isDigit (List.all_eq_true.mp List.all_takeWhile d hd)
    have hne : (c.span Char.isDigit).1 ≠ [] := by simpa using hsome
    refine .bind ?_ fun _ => .ok _
    intro e he
    rw [readInteger_digits hdigits hne] at he
    split at he <;> cases he
    exact .version ‹_›

private theorem takeVersion_tokenizes (c : Cursor) : Tokenizes (takeVersion c) := by
  unfold takeVersion
  refine (takeVersionNumber_tokenizes _).bind fun _ => .ite ?_ .scannerFault
  refine (takeVersionNumber_tokenizes _).bind fun _ => ?_
  exact (expectOnly_tokenizes _ _).bind fun _ => .ok _

private theorem takeHandleMeaning_tokenizes (c : Cursor) : Tokenizes (takeHandleMeaning c) := by
  unfold takeHandleMeaning
  refine (takeHandle_tokenizes _).bind fun _ => .ite ?_ .scannerFault
  refine (takeAddress_tokenizes _).bind fun _ => ?_
  exact (expectOnly_tokenizes _ _).bind fun _ => .ok _

private theorem takeDirective_tokenizes (c : Cursor) : Tokenizes (takeDirective c) := by
  have hend (r : Directive × Cursor) : Tokenizes (do .ok (r.1, ← restOfLine r.2)) :=
    (restOfLine_tokenizes _).bind fun _ => .ok _
  unfold takeDirective
  refine (takeName_tokenizes c).bind fun _ => ?_
  refine (expectOnly_tokenizes _ _).bind fun _ => .ite ?_ (.ite ?_ (.bind (.ok _) hend))
  · exact (takeVersion_tokenizes _).bind hend
  · exact (takeHandleMeaning_tokenizes _).bind hend

end Marks

namespace Tokenizer
variable (s : Tokenizer)

private theorem dropStaleKey_tokenizes (key : Option OpenKey) : Tokenizes (s.dropStaleKey key) := by
  unfold dropStaleKey
  split
  · exact .ok _
  · exact .ite (.ite .scannerFault (.ok _)) (.ok _)

private theorem dropStale_tokenizes : Tokenizes s.dropStale := by
  have hkeys (keys : List (Option OpenKey)) : Tokenizes (keys.mapM s.dropStaleKey) := by
    induction keys with
    | nil => exact .ok _
    | cons key keys ih =>
      rw [List.mapM_cons]
      exact (s.dropStaleKey_tokenizes key).bind fun _ => ih.bind fun _ => .ok _
  unfold dropStale
  exact (hkeys _).bind fun _ => (s.dropStaleKey_tokenizes _).bind fun _ => .ok _

private theorem dropKey_tokenizes : Tokenizes s.dropKey := by
  unfold dropKey
  split
  · exact .ite .scannerFault (.ok _)
  · exact .ok _

private theorem noteKey_tokenizes : Tokenizes s.noteKey := by
  unfold noteKey
  exact .ite (s.dropKey_tokenizes.bind fun _ => .ok _) (.ok _)

private theorem enterBlock_tokenizes (start : Token) : Tokenizes (s.enterBlock start) := by
  unfold enterBlock
  refine .ite (.ok _) (.ite .scannerFault ?_)
  split <;> exact .ok _

private theorem takeValue_tokenizes : Tokenizes s.takeValue := by
  unfold takeValue
  split
  · exact .ok _
  · exact (s.enterBlock_tokenizes _).bind fun _ => .ok _

private theorem takeKeyed_tokenizes {scan : Cursor → Except Failure (Token × Cursor)}
    (h : ∀ c, Tokenizes (scan c)) : Tokenizes (s.takeKeyed scan) := by
  unfold takeKeyed
  exact s.noteKey_tokenizes.bind fun _ => (h _).bind fun _ => .ok _

private theorem closeBracket_tokenizes (t : Token) : Tokenizes (s.closeBracket t) := by
  unfold closeBracket
  refine s.dropKey_tokenizes.bind fun _ => ?_
  dsimp only
  split <;> exact .ok _

private theorem takeToken_tokenizes (x : Char) (r : List Char) : Tokenizes (s.takeToken x r) := by
  have hmark (t : Token) : Tokenizes (s.takeDocumentMark t) :=
    (dropKey_tokenizes _).bind fun _ => .ok _
  have hopen (t : Token) : Tokenizes (s.openBracket t) := s.noteKey_tokenizes.bind fun _ => .ok _
  have hname (token : List Char → Token) : Tokenizes (s.takeKeyed fun c => do
      let r ← anchorName c.next
      .ok (token r.1, r.2)) :=
    s.takeKeyed_tokenizes fun _ => (anchorName_tokenizes _).bind fun _ => .ok _
  have htext (folded : Bool) : Tokenizes (s.takeBlockText folded) :=
    (dropKey_tokenizes _).bind fun _ => (blockText_tokenizes _ _ _).bind fun _ => .ok _
  unfold takeToken
  refine .ite ?_ (.ite (hmark _) (.ite (hmark _) (.ite (hopen _) (.ite (hopen _) ?_))))
  · exact (dropKey_tokenizes _).bind fun _ => (takeDirective_tokenizes _).bind fun _ => .ok _
  refine .ite (s.closeBracket_tokenizes _) (.ite (s.closeBracket_tokenizes _) (.ite ?_ ?_))
  · exact s.dropKey_tokenizes.bind fun _ => .ok _
  refine .ite ?_ (.ite ?_ (.ite s.takeValue_tokenizes (.ite (hname _) (.ite (hname _) ?_))))
  · exact (s.enterBlock_tokenizes _).bind fun _ => (dropKey_tokenizes _).bind fun _ => .ok _
  · exact (s.enterBlock_tokenizes _).bind fun _ => (dropKey_tokenizes _).bind fun _ => .ok _
  refine .ite (s.takeKeyed_tokenizes takeTag_tokenizes) (.ite (htext _) (.ite (htext _) ?_))
  refine .ite ?_ (.ite (s.noteKey_tokenizes.bind fun _ => .ok _) .scannerFault)
  exact s.takeKeyed_tokenizes fun _ => (quotedText_tokenizes _ _).bind fun _ => .ok _

private theorem fetch_tokenizes : Tokenizes s.fetch := by
  unfold fetch
  refine (dropStale_tokenizes _).bind fun _ => ?_
  dsimp only
  split
  · exact (dropKey_tokenizes _).bind fun _ => .ok _
  · exact takeToken_tokenizes _ _ _

private theorem run_failure (n : Nat) {e : Failure} (h : (run n s).2 = some e) :
    TokenFailure e := by
  induction n generalizing s with
  | zero =>
    cases h
    exact .fault .scanner
  | succ n ih =>
    unfold run at h
    split at h
    · cases h
    · split at h
      · rename_i e' hstale
        cases h
        exact s.dropStale_tokenizes _ hstale
      · rename_i t _
        dsimp only at h
        cases hf : t.fetch with
        | error e' =>
          have hfails : TokenFailure e' := t.fetch_tokenizes _ hf
          simp only [hf] at h
          split at h
          · cases h
            exact hfails
          · split at h
            · cases h
              exact hfails
            · exact ih _ h
        | ok s' =>
          simp only [hf] at h
          split at h
          · exact ih _ h
          · split at h
            · exact ih _ h
            · exact ih _ h

end Tokenizer

/-- Tokens end at the end of the text, at a fault, at an escape for no code point or at a version of
too many digits. -/
theorem tokens_failure {s : List Char} {e : Failure} (h : (tokens s).2 = some e) :
    TokenFailure e := Tokenizer.run_failure _ _ h

end FeatureRun.Yaml
