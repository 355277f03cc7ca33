import FeatureRun.Proofs.PageCalls
import FeatureRun.Proofs.SpecRun
import FeatureRun.Proofs.Substitution
import Mathlib.Data.List.Nodup

/-!
References to variables. A declared value is resolved by the token and the variables before it; a
step text that refers to the variable then meets all variables in their order, so those that stand
behind the variable act on the resolved value once more. Main statement: `perform_reference`.
-/
namespace FeatureRun.Text

/-- A text without the part is left as it is. -/
private theorem replaceAll_of_absent {part new s : List Char} (h : ¬ part <:+: s) :
    replaceAll part new s = s := by
  induction s with
  | nil => rfl
  | cons c r ih =>
    rw [List.infix_cons_iff, not_or] at h
    rw [replaceAll_char h.1, ih h.2]

end FeatureRun.Text

namespace FeatureRun.Spec
open FeatureRun.Text FeatureRun.Number FeatureRun.Data

def reference (name : String) : String := String.ofList (placeholder name.toList)

namespace Bindings
variable {bindings : Bindings} {name value : String}

private theorem lookup_cons_ne {other : String} (h : other ≠ name) :
    List.lookup other ((name, value) :: bindings) = bindings.lookup other := by
  rw [List.lookup_cons, beq_eq_false_iff_ne.mpr h]

private theorem lookup_set (name value : String) (bindings : Bindings) (other : String) :
    (bindings.set name value).lookup other =
      if other = name then some value else bindings.lookup other := by
  induction bindings with
  | nil =>
    by_cases h : other = name
    · rw [if_pos h, h]
      exact List.lookup_cons_self
    · rw [if_neg h]
      exact lookup_cons_ne h
  | cons b bindings ih =>
    obtain ⟨first, old⟩ := b
    rw [set_cons]
    by_cases hfirst : first = name
    · subst hfirst
      by_cases h : other = first
      · rw [if_pos rfl, if_pos h, h, List.lookup_cons_self]
      · rw [if_pos rfl, if_neg h, lookup_cons_ne h, lookup_cons_ne h]
    · rw [if_neg hfirst]
      by_cases h : other = first
      · rw [h, List.lookup_cons_self, List.lookup_cons_self, if_neg hfirst]
      · rw [lookup_cons_ne h, lookup_cons_ne h]
        exact ih

section Referring
variable {front behind : Bindings}

/-- A reference comes to the value of its variable, on which the variables behind it act. -/
private theorem substitute_reference (hplain : ∀ n ∈ front.names, IsPlain n.toList)
    (hname : IsPlain name.toList) (hfront : name ∉ front.names) :
    substitute (front ++ (name, value) :: behind) (reference name) =
      behind.substitute value := by
  rw [substitute, substitute, reference, String.toList_ofList]
  refine congrArg String.ofList ?_
  induction front with
  | nil =>
    have hpart : replaceAll (placeholder name.toList) value.toList (placeholder name.toList ++ []) =
        value.toList ++ [] := replaceAll_part (List.cons_ne_nil _ _) []
    rw [List.append_nil] at hpart
    change substituteList behind (replaceAll _ value.toList _) = _
    rw [hpart]
    exact congrArg _ (List.append_nil _)
  | cons b front ih =>
    obtain ⟨hb, hrest⟩ := List.forall_mem_cons.mp hplain
    obtain ⟨hne, hother⟩ := not_or.mp (mt List.mem_cons.mpr hfront)
    have hpass : replaceAll (placeholder b.1.toList) b.2.toList (placeholder name.toList ++ []) =
        placeholder name.toList ++ [] :=
      replaceAll_place hb hname fun h => hne (String.toList_inj.mp h)
    rw [List.append_nil] at hpass
    change substituteList (front ++ _) (replaceAll _ b.2.toList _) = _
    rw [hpass]
    exact ih hrest hother

/-- Bindings without a placeholder in the text leave it. -/
private theorem substitute_of_absent {s : String}
    (h : ∀ n ∈ bindings.names, ¬ placeholder n.toList <:+: s.toList) :
    bindings.substitute s = s := by
  rw [substitute]
  refine (congrArg String.ofList ?_).trans String.ofList_toList
  induction bindings with
  | nil => rfl
  | cons b bindings ih =>
    obtain ⟨hb, hrest⟩ := List.forall_mem_cons.mp h
    change substituteList bindings (replaceAll _ b.2.toList _) = _
    rw [replaceAll_of_absent hb]
    exact ih hrest

end Referring

end Bindings

namespace Variables
variable {start : Variables} {declared before after : Bindings} {name value : String}

section Resolving

private theorem resolve_append (start : Variables) (before after : Bindings) :
    resolve start (before ++ after) = resolve (resolve start before) after :=
  List.foldl_append

/-- Declarations of other names leave the value of a name. -/
private theorem lookup_resolve_of_not_mem (h : name ∉ declared.names) :
    (resolve start declared).bindings.lookup name = start.bindings.lookup name := by
  induction declared generalizing start with
  | nil => rfl
  | cons d declared ih =>
    obtain ⟨hd, hrest⟩ := not_or.mp (mt List.mem_cons.mpr h)
    exact (ih hrest).trans ((Bindings.lookup_set d.1 _ start.bindings name).trans (if_neg hd))

/-- A declared name has the value that the variables before it make of the declaration. -/
theorem lookup_resolve (h : (before ++ (name, value) :: after).names.Nodup) :
    (resolve start (before ++ (name, value) :: after)).bindings.lookup name =
      some ((resolve start before).substitute value) := by
  have hafter : name ∉ after.names := by
    rw [Bindings.names_append] at h
    exact (List.nodup_cons.mp (List.nodup_append.mp h).2.1).1
  rw [resolve_append]
  refine (lookup_resolve_of_not_mem hafter).trans ?_
  exact (Bindings.lookup_set name _ _ name).trans (if_pos rfl)

theorem names_set (name value : String) (vars : Variables) :
    (vars.set name value).names =
      if name ∈ vars.names then vars.names else vars.names ++ [name] :=
  Bindings.names_set name value vars.bindings

/-- New names come behind those that are there, in the order of their declarations. -/
theorem names_resolve (h : declared.names.Nodup) :
    (resolve start declared).names =
      start.names ++ declared.names.filter (· ∉ start.names) := by
  induction declared generalizing start with
  | nil => exact (List.append_nil _).symm
  | cons d declared ih =>
    obtain ⟨hd, hrest⟩ := List.nodup_cons.mp h
    refine (ih hrest).trans ?_
    rw [names_set, Bindings.names_cons]
    by_cases hmem : d.1 ∈ start.names
    · rw [if_pos hmem, List.filter_cons_of_neg (by simpa using hmem)]
    · rw [if_neg hmem, List.filter_cons_of_pos (by simpa using hmem), List.append_assoc,
        List.singleton_append]
      refine congrArg (start.names ++ d.1 :: ·) (List.filter_congr fun n hn => ?_)
      have hne : n ≠ d.1 := fun he => hd (he ▸ hn)
      simp [hne]

/-- Behind the token come the declared names, without that of the token. -/
private theorem names_resolve_token (token : String) (h : declared.names.Nodup) :
    (resolve (.single "RAND" token) declared).names =
      "RAND" :: declared.names.filter (· ≠ "RAND") := by
  rw [names_resolve h]
  simp [names_bindings, single]

/-- A declared variable has its resolved value. Behind it stand the variables declared after it, and
behind a declared token all other variables. -/
theorem resolve_split (token : String)
    (h : (before ++ (name, value) :: after).names.Nodup) :
    ∃ front behind : Bindings,
      (resolve (.single "RAND" token) (before ++ (name, value) :: after)).bindings =
        front ++ (name, (resolve (.single "RAND" token) before).substitute value) :: behind ∧
      name ∉ front.names ∧
      behind.names =
        if name = "RAND" then (before ++ after).names else after.names.filter (· ≠ "RAND") := by
  obtain ⟨front, behind, hsplit, hother⟩ := List.lookup_eq_some_iff.mp (lookup_resolve h)
  have hfront : name ∉ Bindings.names front := by
    intro hmem
    obtain ⟨v, hv, hname⟩ := List.mem_map.mp hmem
    exact bne_iff_ne.mp (hother v hv) hname.symm
  have hnames := names_resolve_token token h
  rw [names_bindings, hsplit, Bindings.names_append, Bindings.names_cons, Bindings.names_append,
    Bindings.names_cons] at hnames
  rw [Bindings.names_append, Bindings.names_cons, List.nodup_middle, List.nodup_cons,
    List.mem_append, not_or] at h
  obtain ⟨⟨hbefore, hafter⟩, _⟩ := h
  refine ⟨front, behind, hsplit, hfront, ?_⟩
  by_cases hname : name = "RAND"
  · subst hname
    have hkept (xs : List String) (hxs : "RAND" ∉ xs) : xs.filter (· ≠ "RAND") = xs :=
      List.filter_eq_self.mpr fun x hx => decide_eq_true fun he => hxs (he ▸ hx)
    rw [List.filter_append, List.filter_cons_of_neg (by simp), hkept _ hbefore,
      hkept _ hafter] at hnames
    have hall : [] ++ "RAND" :: (before.names ++ after.names) =
        Bindings.names front ++ "RAND" :: Bindings.names behind := hnames.symm
    have hsame := (List.append_cons_inj_of_notMem List.not_mem_nil
      (by simp [hbefore, hafter])).mp hall
    rw [if_pos rfl, Bindings.names_append]
    exact hsame.2.2.symm
  · rw [List.filter_append, List.filter_cons_of_pos (by simpa using hname),
      ← List.cons_append] at hnames
    have hsame := (List.append_cons_inj_of_notMem (by simp [hname, hbefore])
      (by simp [hafter])).mp hnames.symm
    rw [if_neg hname]
    exact hsame.2.2.symm

end Resolving

end Variables

def Instruction.mapTexts (f : String → String) : Instruction → Instruction
  | .text a s => .text a (f s)
  | .await w s t => .await w (f s) t
  | .fill s v => .fill (f s) (f v)
  | .fillField l v => .fillField (f l) (f v)
  | .select l o => .select (f l) (f o)
  | .clickText s => .clickText (f s)
  | .clickSelector s => .clickSelector (f s)
  | .wait x => .wait x

private theorem Instruction.substitute_eq_mapTexts (vars : Variables) (i : Instruction) :
    i.substitute vars = i.mapTexts vars.substitute := by
  cases i <;> rfl

end FeatureRun.Spec

namespace FeatureRun.Run
open FeatureRun.Text FeatureRun.Data FeatureRun.Files FeatureRun.Spec FeatureRun.Browser

/-- Wherever a step has the text `s`, its action gets the text `t`. -/
def Reaches (ctx : Context) (s t : String) : Prop :=
  ∀ i : Instruction, perform ctx (.known i) =
    performInstruction ctx (i.mapTexts fun u => if u = s then t else ctx.vars.substitute u)

private theorem reaches_iff {ctx : Context} {s t : String} :
    Reaches ctx s t ↔ ctx.vars.substitute s = t := by
  constructor
  · intro h
    -- the key that is pressed shows which text the action got
    let blank : World := { page := {}, files := ⟨[], []⟩, picks := ⟨[], 0⟩ }
    have hpress := congrArg (fun r => (outcome r blank).2.calls) (h (.text .press s))
    have hgiven := (Acts.performInstruction ctx (.text .press (ctx.vars.substitute s))).calls blank
    have htext := (Acts.performInstruction ctx (.text .press t)).calls blank
    simp only [Instruction.mapTexts, if_pos] at hpress
    change (outcome (performInstruction ctx (.text .press (ctx.vars.substitute s))) blank).2.calls =
      _ at hpress
    rw [hgiven, htext] at hpress
    cases hpress
    rfl
  · rintro rfl i
    have htexts : (fun u => if u = s then ctx.vars.substitute s else ctx.vars.substitute u) =
        ctx.vars.substitute := by
      funext u
      split
      · rw [‹u = s›]
      · rfl
    rw [htexts, ← Instruction.substitute_eq_mapTexts]
    rfl

/-- What the declaration of a variable resolves to in a world: the token and the variables declared
before it are put into its value. -/
def resolvedIn (w : World) (before : Bindings) (value : String) : String :=
  let token := String.ofList (w.picks.token tokenLength).1
  (Variables.resolve (.single "RAND" token) before).substitute value

/-- A reference to a declared variable comes to the resolved value of its declaration, on which the
variables behind it act once more. So the step gets the resolved value exactly if they leave it, as
they do when none of their placeholders stands in it. -/
theorem perform_reference {spec : Spec} (hplain : ∀ n ∈ spec.vars.names, IsPlain n.toList)
    {before after : Bindings} {name value : String}
    (hvars : spec.vars.bindings = before ++ (name, value) :: after) (path : Path) (o : Options)
    (w : World) :
    ∃ front behind : Bindings,
      (contextIn spec path o w).vars.bindings =
        front ++ (name, resolvedIn w before value) :: behind ∧
      behind.names =
        (if name = "RAND" then (before ++ after).names else after.names.filter (· ≠ "RAND")) ∧
      Reaches (contextIn spec path o w) (reference name)
        (behind.substitute (resolvedIn w before value)) ∧
      (Reaches (contextIn spec path o w) (reference name) (resolvedIn w before value) ↔
        behind.substitute (resolvedIn w before value) = resolvedIn w before value) ∧
      ((∀ n ∈ behind.names,
          ¬ placeholder n.toList <:+: (resolvedIn w before value).toList) →
        Reaches (contextIn spec path o w) (reference name) (resolvedIn w before value)) := by
  let token := String.ofList (w.picks.token tokenLength).1
  obtain ⟨front, behind, hsplit, hfront, hbehind⟩ :=
    Variables.resolve_split token (hvars ▸ spec.vars.distinct)
  have hctx : (contextIn spec path o w).vars.bindings =
      front ++ (name, resolvedIn w before value) :: behind := by
    rw [← hvars] at hsplit
    exact hsplit
  have hnames : (contextIn spec path o w).vars.names =
      "RAND" :: spec.vars.names.filter (· ≠ "RAND") :=
    Variables.names_resolve_token token spec.vars.distinct
  have hall : ∀ n ∈ (contextIn spec path o w).vars.names, IsPlain n.toList := by
    rw [hnames, List.forall_mem_cons]
    exact ⟨by decide, fun n hn => hplain n (List.mem_filter.mp hn).1⟩
  rw [Variables.names_bindings, hctx, Bindings.names_append, List.forall_mem_append,
    Bindings.names_cons, List.forall_mem_cons] at hall
  have hcomes : (contextIn spec path o w).vars.substitute (reference name) =
      behind.substitute (resolvedIn w before value) := by
    rw [Variables.substitute, hctx]
    exact Bindings.substitute_reference hall.1 hall.2.1 hfront
  refine ⟨front, behind, hctx, hbehind, reaches_iff.mpr hcomes, ?_, fun hfree => ?_⟩
  · rw [reaches_iff, hcomes]
  · rw [reaches_iff, hcomes, Bindings.substitute_of_absent hfree]

/-- A spec whose second variable has a text that refers to the first. -/
def greetingSpec : Spec where
  feature := "Greeting"
  description := none
  status := .draft
  baseUrl := none
  vars := .ofBindings
    [("USER", "qa-$\x7bRAND\x7d"), ("MAIL", "$\x7bUSER\x7d@example.com"), ("PATH", "/in")]
  scenarios := [⟨"Mail", [.known (.fillField "Mail" (reference "MAIL"))]⟩]

theorem perform_reference_greeting :
    Reaches (contextIn greetingSpec (Path.ofString "greeting.yaml") {} shopWorld)
      (reference "MAIL") "qa-aaaaaa@example.com" := by
  obtain ⟨_, _, _, hbehind, _, _, hkept⟩ :=
    @perform_reference greetingSpec (by decide) [("USER", "qa-$\x7bRAND\x7d")] _ _ _
      rfl (Path.ofString "greeting.yaml") {} shopWorld
  have hvalue : resolvedIn shopWorld [("USER", "qa-$\x7bRAND\x7d")] "$\x7bUSER\x7d@example.com" =
      "qa-aaaaaa@example.com" := rfl
  rw [hvalue, hbehind] at hkept
  exact hkept (by decide +kernel)

/-- A spec whose first variable has a text that refers to the second. -/
def forwardSpec : Spec where
  feature := "F"
  description := none
  status := .draft
  baseUrl := none
  vars := .ofBindings [("A", "$\x7bB\x7d"), ("B", "x")]
  scenarios := [⟨"N", [.known (.text .goto (reference "A"))]⟩]

/-- A declaration resolves to a reference to a variable declared after it, and yet the page that is
opened is the value of that variable. -/
theorem reference_altered :
    forwardSpec.vars.bindings = [] ++ ("A", "$\x7bB\x7d") :: [("B", "x")] ∧
      (∀ n ∈ forwardSpec.vars.names, IsPlain n.toList) ∧
      resolvedIn shopWorld [] "$\x7bB\x7d" = "$\x7bB\x7d" ∧
      ¬ Reaches (contextIn forwardSpec (Path.ofString "s.yaml") {} shopWorld)
        (reference "A") "$\x7bB\x7d" ∧
      (outcome (runSpec forwardSpec (Path.ofString "s.yaml") {}) shopWorld).2.calls =
        [.goto "x" "domcontentloaded" (.int 7000)] := by
  refine ⟨rfl, by decide, rfl, ?_, rfl⟩
  rw [reaches_iff]
  decide +kernel

end FeatureRun.Run
