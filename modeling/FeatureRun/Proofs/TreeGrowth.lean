import FeatureRun.Files.Tree
import Mathlib.Logic.Basic

/-!
Trees of files that grow in one directory. A tree is ahead of another if it has the same nodes and
perhaps that directory with more files in it. To make the directory, and to write a file in it once
it is made, ends alike in both trees and leaves one ahead of the other.
-/
namespace FeatureRun.Files

namespace Tree

private theorem lookup_others (nodes : List (List String × Node)) (place p : List String) :
    (nodes.filter (·.1 != place)).lookup p = if p = place then none else nodes.lookup p := by
  induction nodes with
  | nil => simp
  | cons e nodes ih =>
    by_cases he : e.1 = place
    · rw [List.filter_cons_of_neg (by simpa using he), ih, List.lookup_cons, he]
      split
      · rfl
      · rename_i hp
        rw [beq_false_of_ne hp]
    · rw [List.filter_cons_of_pos (by simpa using he), List.lookup_cons, ih, List.lookup_cons]
      by_cases hp : p = place
      · rw [if_pos hp, if_pos hp, beq_false_of_ne fun h => he (h.symm.trans hp)]
      · rw [if_neg hp, if_neg hp]

/-- What is written at a place is found there, and all else is as it was. -/
theorem at?_put {place : List String} (hplace : place ≠ []) (t : Tree) (node : Node)
    (p : List String) : (t.put place node).at? p = if p = place then some node else t.at? p := by
  unfold at? put
  by_cases hp : p = []
  · rw [hp, if_neg hplace.symm]
    rfl
  · have hempty : ¬ p.isEmpty = true := by simpa using hp
    rw [if_neg hempty, if_neg hempty, List.lookup_append, lookup_others, List.lookup_cons,
      List.lookup_nil]
    by_cases hpp : p = place
    · rw [if_pos hpp, if_pos hpp, hpp, beq_self_eq_true]
      rfl
    · rw [if_neg hpp, if_neg hpp, beq_false_of_ne hpp, Option.or_none]

private theorem walk_append (t : Tree) (place xs ys : List String) :
    t.walk place (xs ++ ys) = t.walk place xs >>= fun q => t.walk q ys := by
  induction xs generalizing place with
  | nil => rfl
  | cons c xs ih =>
    rw [List.cons_append, walk, walk]
    split
    · rfl
    · rfl
    · split
      · exact ih _
      · split
        · rfl
        · exact ih _

/-- One plain component is walked from a directory. -/
private theorem walk_cons {t : Tree} {place rest : List String} {c : String}
    (hd : t.at? place = some .directory) (hc : c ≠ "..") :
    t.walk place (c :: rest) =
      if tooLong c then .error .nameTooLong else t.walk (place ++ [c]) rest := by
  rw [walk, hd]
  exact if_neg hc

private theorem walk_of_locate {t : Tree} {p : Path} {place : List String}
    (h : t.locate p = .ok place) :
    t.walk (if p.anchor = .relative then t.workingDirectory else []) p.parts = .ok place := by
  unfold locate at h
  split at h
  · cases h
  · exact h

/-- What an operation comes to where its path has a place. -/
private theorem onPlace_located {α : Type} {t : Tree} {p : Path} {place : List String}
    (hp : ¬ p.text.toList.contains '\x00' = true) (hl : t.locate p = .ok place)
    (f : List String → Except FileCause α) :
    t.onPlace p f = (f place).mapError fun cause => FileFailure.file ⟨cause, p⟩ := by
  have hbind : (Except.ok place >>= f) = f place := rfl
  rw [onPlace, if_neg hp, hl, hbind]
  cases f place <;> rfl

/-- An operation that succeeds has found the place of its path. -/
private theorem onPlace_ok {α : Type} {t : Tree} {p : Path} {f : List String → Except FileCause α}
    {x : α}
    (h : t.onPlace p f = .ok x) : ∃ place, t.locate p = .ok place ∧ f place = .ok x := by
  by_cases hp : p.text.toList.contains '\x00' = true
  · rw [onPlace, if_pos hp] at h
    cases h
  · cases hl : t.locate p with
    | error e =>
      rw [onPlace, if_neg hp, hl] at h
      cases h
    | ok place =>
      rw [onPlace_located hp hl] at h
      cases hf : f place with
      | error e =>
        rw [hf] at h
        cases h
      | ok y =>
        rw [hf] at h
        cases h
        exact ⟨place, rfl, hf⟩

/-- Why nothing can be done at a path whose last components are these, whatever the files are. -/
def blocked? (p : Path) (names : List String) : Option FileFailure :=
  if p.text.toList.contains '\x00' then some .nullByte
  else if 4096 ≤ p.text.utf8ByteSize ∨ names.any tooLong = true then
    some (.file ⟨.nameTooLong, p⟩)
  else none

private theorem blocked?_ne_missing (p q : Path) (names : List String) :
    blocked? p names ≠ some (.file ⟨.missing, q⟩) := by
  unfold blocked?
  split
  · nofun
  · split <;> nofun

/-- An operation at the end of plain components is done at their place, unless it is blocked. -/
private theorem onPlace_names {α : Type} {t : Tree} {p : Path} {names place : List String}
    (hw : t.walk (if p.anchor = .relative then t.workingDirectory else []) p.parts =
      if names.any tooLong then .error .nameTooLong else .ok place)
    (f : List String → Except FileCause α) :
    t.onPlace p f = (blocked? p names).elim
      ((f place).mapError fun cause => FileFailure.file ⟨cause, p⟩) .error := by
  by_cases hp : p.text.toList.contains '\x00' = true
  · rw [onPlace, blocked?, if_pos hp, if_pos hp]
    rfl
  · rw [blocked?, if_neg hp]
    by_cases hsize : 4096 ≤ p.text.utf8ByteSize
    · rw [onPlace, if_neg hp, locate, if_pos hsize, if_pos (.inl hsize)]
      rfl
    · by_cases hlong : names.any tooLong = true
      · rw [onPlace, if_neg hp, locate, if_neg hsize, hw, if_pos hlong, if_pos (.inr hlong)]
        rfl
      · rw [if_neg hlong] at hw
        rw [if_neg (not_or.mpr ⟨hsize, hlong⟩)]
        exact onPlace_located hp (by rw [locate, if_neg hsize, hw]) f

end Tree

/-- The name of a directory below another one, with the place of the other. -/
structure Site where
  anchor : Anchor
  above : List String
  base : List String
  name : String
  plain : name ≠ ".."

namespace Site
variable (s : Site)

def path : Path := ⟨s.anchor, s.above ++ [s.name]⟩

def file (x : String) : Path := ⟨s.anchor, s.above ++ [s.name, x]⟩

def place : List String := s.base ++ [s.name]

theorem file_eq (x : String) : s.file x = ⟨s.path.anchor, s.path.parts ++ [x]⟩ := by
  rw [file, path, List.append_assoc, List.singleton_append]

theorem file_parent (x : String) : (s.file x).parent = s.path := by
  rw [file_eq, Path.parent, List.dropLast_concat]

structure Stands (t : Tree) : Prop where
  walk : t.walk (if s.anchor = .relative then t.workingDirectory else []) s.above = .ok s.base
  directory : t.at? s.base = some .directory

structure Made (t : Tree) : Prop extends s.Stands t where
  made : t.at? s.place = some .directory

variable {s} {t u v : Tree}

private theorem place_ne_nil (s : Site) : s.place ≠ [] :=
  List.append_ne_nil_of_right_ne_nil _ (List.cons_ne_nil _ _)

private theorem Stands.walk_below (h : s.Stands t) (rest : List String) :
    t.walk (if s.anchor = .relative then t.workingDirectory else []) (s.above ++ rest) =
      t.walk s.base rest := by
  rw [Tree.walk_append, h.walk]
  rfl

/-- An operation on the directory is blocked, or it is done at its place. -/
theorem Stands.onPlace {α : Type} (h : s.Stands t) (f : List String → Except FileCause α) :
    t.onPlace s.path f = (Tree.blocked? s.path [s.name]).elim
      ((f s.place).mapError fun cause => FileFailure.file ⟨cause, s.path⟩) .error := by
  refine Tree.onPlace_names ((h.walk_below _).trans ?_) f
  rw [Tree.walk_cons h.directory s.plain, Tree.walk, List.any_cons, List.any_nil, Bool.or_false]
  rfl

/-- An operation on a file in the directory is blocked, or it is done right below its place. -/
theorem Made.onPlace {α : Type} (h : s.Made t) {x : String} (hx : x ≠ "..")
    (f : List String → Except FileCause α) :
    t.onPlace (s.file x) f = (Tree.blocked? (s.file x) [s.name, x]).elim
      ((f (s.place ++ [x])).mapError fun cause => FileFailure.file ⟨cause, s.file x⟩) .error := by
  refine Tree.onPlace_names ((h.walk_below _).trans ?_) f
  have hmade : t.at? (s.base ++ [s.name]) = some .directory := h.made
  rw [Tree.walk_cons h.directory s.plain, Tree.walk_cons hmade hx, Tree.walk, List.any_cons,
    List.any_cons, List.any_nil, Bool.or_false]
  cases Tree.tooLong s.name <;> rfl

/-- A directory that is there is one above a site, for every plain name. -/
theorem exists_of_isDirectory {p : Path} (h : t.isDirectory p = true) {x : String}
    (hx : x ≠ "..") : ∃ s : Site, s.path = ⟨p.anchor, p.parts ++ [x]⟩ ∧ s.Stands t := by
  unfold Tree.isDirectory at h
  split at h
  · rename_i hplace
    obtain ⟨base, hbase, hat⟩ := Tree.onPlace_ok hplace
    exact ⟨⟨p.anchor, p.parts, base, x, hx⟩, rfl, Tree.walk_of_locate hbase, Except.ok.inj hat⟩
  · cases h

end Site

/-- What a place holds in a tree and in one that is ahead of it: the same, another picture, the
directory that was made or a file in it. -/
inductive Leads (s : Site) (p : List String) : Option Node → Option Node → Prop
  | same (n : Option Node) : Leads s p n n
  | rewritten (c c' : List UInt8) : Leads s p (some (.file c)) (some (.file c'))
  | made : p = s.place → Leads s p none (some .directory)
  | written {x : String} (c : List UInt8) : p = s.place ++ [x] → Leads s p none (some (.file c))

/-- A tree is ahead of another one: the directory may have been made, and files written in it. -/
structure Ahead (s : Site) (t u : Tree) : Prop where
  workingDirectory : u.workingDirectory = t.workingDirectory
  leads : ∀ p, Leads s p (t.at? p) (u.at? p)

namespace Ahead
variable {s : Site} {t u v : Tree} {p : List String}

theorem refl (t : Tree) : Ahead s t t := ⟨rfl, fun _ => .same _⟩

theorem trans (h : Ahead s t u) (h' : Ahead s u v) : Ahead s t v := by
  refine ⟨h'.workingDirectory.trans h.workingDirectory, fun p => ?_⟩
  have hp := h.leads p
  have hp' := h'.leads p
  generalize t.at? p = a at hp
  generalize u.at? p = b at hp hp'
  generalize v.at? p = c at hp'
  cases hp with
  | same _ => exact hp'
  | rewritten _ _ => cases hp' with
    | same _ => exact .rewritten _ _
    | rewritten _ _ => exact .rewritten _ _
  | made hd => cases hp' with
    | same _ => exact .made hd
  | written _ hx => cases hp' with
    | same _ => exact .written _ hx
    | rewritten _ _ => exact .written _ hx

theorem directory (h : Ahead s t u) (hp : t.at? p = some .directory) :
    u.at? p = some .directory := by
  have hl := h.leads p
  rw [hp] at hl
  generalize u.at? p = b at hl
  cases hl with
  | same _ => rfl

/-- What a walk passes is still there. -/
theorem walk (h : Ahead s t u) {place cs r : List String} (hr : t.walk place cs = .ok r) :
    u.walk place cs = .ok r := by
  induction cs generalizing place with
  | nil => exact hr
  | cons c cs ih =>
    rw [Tree.walk] at hr ⊢
    split at hr
    · cases hr
    · cases hr
    · rename_i hd
      rw [h.directory hd]
      dsimp only
      split at hr
      · rename_i hdots
        rw [if_pos hdots]
        exact ih hr
      · rename_i hdots
        rw [if_neg hdots]
        split at hr
        · cases hr
        · rename_i hlong
          rw [if_neg hlong]
          exact ih hr

theorem stands (h : Ahead s t u) (hs : s.Stands t) : s.Stands u where
  walk := h.workingDirectory.symm ▸ h.walk hs.walk
  directory := h.directory hs.directory

theorem isMade (h : Ahead s t u) (hm : s.Made t) : s.Made u where
  toStands := h.stands hm.toStands
  made := h.directory hm.made

/-- A tree with one node more is ahead. -/
theorem put {place : List String} (hplace : place ≠ []) {n : Node}
    (hl : Leads s place (t.at? place) (some n)) : Ahead s t (t.put place n) := by
  refine ⟨rfl, fun p => ?_⟩
  rw [Tree.at?_put hplace]
  split
  · rename_i hp
    rwa [hp]
  · exact .same _

/-- What is written in both trees leaves one ahead of the other. -/
private theorem put_both (h : Ahead s t u) {place : List String} (hplace : place ≠ []) (n : Node) :
    Ahead s (t.put place n) (u.put place n) := by
  refine ⟨h.workingDirectory, fun p => ?_⟩
  rw [Tree.at?_put hplace, Tree.at?_put hplace]
  split
  · exact .same _
  · exact h.leads p

/-- What is written in the tree behind where it stands ahead leaves that one ahead. -/
private theorem put_behind (h : Ahead s t u) {place : List String} (hplace : place ≠ []) {n : Node}
    (hu : u.at? place = some n) : Ahead s (t.put place n) u := by
  refine ⟨h.workingDirectory, fun p => ?_⟩
  rw [Tree.at?_put hplace]
  split
  · rename_i hp
    rw [hp, hu]
    exact .same _
  · exact h.leads p

end Ahead

/-- A change fails alike in both trees, or it succeeds in both and keeps one ahead of the other. -/
inductive ChangeAlike (s : Site) (t : Tree) :
    Except FileFailure Tree → Except FileFailure Tree → Prop
  | failed (e : FileFailure) : ChangeAlike s t (.error e) (.error e)
  | changed {t' u' : Tree} : Ahead s t t' → Ahead s t' u' → ChangeAlike s t (.ok t') (.ok u')

/-- A file in the directory is written alike in a tree and in one that is ahead of it. -/
theorem Ahead.write {s : Site} {t u : Tree} (h : Ahead s t u) (hm : s.Made t) {x : String}
    (hx : x ≠ "..") (content : List UInt8) :
    ChangeAlike s t (t.write (s.file x) content) (u.write (s.file x) content) := by
  have hplace : s.place ++ [x] ≠ [] := List.append_ne_nil_of_right_ne_nil _ (List.cons_ne_nil _ _)
  have hboth := h.put_both hplace (.file content)
  have hput (hl : Leads s (s.place ++ [x]) (t.at? (s.place ++ [x])) (some (.file content))) :=
    Ahead.put hplace hl
  have hl := h.leads (s.place ++ [x])
  rw [Tree.write, Tree.write, hm.onPlace hx, (h.isMade hm).onPlace hx]
  cases Tree.blocked? (s.file x) [s.name, x] with
  | some e => exact .failed e
  | none =>
    generalize t.at? (s.place ++ [x]) = a at hl hput
    generalize u.at? (s.place ++ [x]) = b at hl
    cases hl with
    | same =>
      rcases a with _ | _ | c
      · exact .changed (hput (.written _ rfl)) hboth
      · exact .failed _
      · exact .changed (hput (.rewritten _ _)) hboth
    | rewritten c c' => exact .changed (hput (.rewritten _ _)) hboth
    | made hp => exact absurd hp (by simp)
    | written c _ => exact .changed (hput (.written _ rfl)) hboth

/-- What the making of the directory comes to where the one above it stands. -/
theorem Site.Stands.haveDirectory {s : Site} {t : Tree} (h : s.Stands t) :
    t.haveDirectory s.path = (Tree.blocked? s.path [s.name]).elim
      (match t.at? s.place with
        | none => .ok (t.put s.place .directory)
        | some .directory => .ok t
        | some (.file _) => .error (.file ⟨.existing, s.path⟩)) .error := by
  unfold Tree.haveDirectory Tree.makeDirectory Tree.isDirectory
  rw [h.onPlace, h.onPlace]
  cases Tree.blocked? s.path [s.name] with
  | some e =>
    cases e with
    | nullByte => rfl
    | file e =>
      change (if (e.cause != .missing && false) = true then Except.ok t
        else Except.error (FileFailure.file e)) = _
      rw [Bool.and_false]
      rfl
  | none =>
    rcases t.at? s.place with _ | _ | c <;> rfl

/-- No directory above is missing. -/
theorem Site.Stands.haveDirectories {s : Site} {t : Tree} (h : s.Stands t) :
    t.haveDirectories s.path = t.attempt (t.haveDirectory s.path) := by
  have hlength : s.path.parts.length = s.above.length + 1 := List.length_append
  rw [Tree.haveDirectories, hlength, Tree.haveDirectoriesWithin]
  split
  · rename_i q hq
    rw [Tree.makeDirectory, h.onPlace] at hq
    cases hb : Tree.blocked? s.path [s.name] with
    | some e =>
      rw [hb] at hq
      cases hq
      exact absurd hb (Tree.blocked?_ne_missing _ _ _)
    | none =>
      rw [hb] at hq
      generalize t.at? s.place = a at hq
      cases a <;> cases hq
  · rfl

theorem Site.Stands.made {s : Site} {t t' : Tree} (h : s.Stands t)
    (ht : t.haveDirectory s.path = .ok t') : s.Made t' := by
  rw [h.haveDirectory] at ht
  cases hb : Tree.blocked? s.path [s.name] with
  | some e =>
    rw [hb] at ht
    cases ht
  | none =>
    rw [hb] at ht
    cases ha : t.at? s.place with
    | none =>
      rw [ha] at ht
      cases ht
      have hahead : Ahead s t (t.put s.place .directory) :=
        .put s.place_ne_nil (ha ▸ .made rfl)
      exact ⟨hahead.stands h, by rw [Tree.at?_put s.place_ne_nil, if_pos rfl]⟩
    | some n =>
      rw [ha] at ht
      cases n with
      | directory =>
        cases ht
        exact ⟨h, ha⟩
      | file c => cases ht

/-- The directory is made alike in a tree and in one that is ahead of it. -/
theorem Ahead.haveDirectory {s : Site} {t u : Tree} (h : Ahead s t u) (hs : s.Stands t) :
    ChangeAlike s t (t.haveDirectory s.path) (u.haveDirectory s.path) := by
  have hput (hl : Leads s s.place (t.at? s.place) (some .directory)) :=
    Ahead.put s.place_ne_nil hl
  have hboth := h.put_both s.place_ne_nil .directory
  have hbehind (hu : u.at? s.place = some .directory) := h.put_behind s.place_ne_nil hu
  have hl := h.leads s.place
  rw [hs.haveDirectory, (h.stands hs).haveDirectory]
  cases Tree.blocked? s.path [s.name] with
  | some e => exact .failed e
  | none =>
    generalize t.at? s.place = a at hl hput
    generalize u.at? s.place = b at hl hbehind
    cases hl with
    | same =>
      rcases a with _ | _ | c
      · exact .changed (hput (.made rfl)) hboth
      · exact .changed (.refl t) h
      · exact .failed _
    | rewritten c c' => exact .failed _
    | made _ => exact .changed (hput (.made rfl)) (hbehind rfl)
    | written c hp => exact absurd hp (by simp)

end FeatureRun.Files
