import Mathlib.Data.List.Nodup
import RemoteDesktop.Credential.Custody
import RemoteDesktop.Proofs.Bytes

/-!
# Every record belongs to a credential that is alive

A credential that cannot be issued leaves the directory as it was (`Directory.issueSecret_cases`), and the removal
of a record leaves all other files as they were. So the directory always has the files of the start and, behind
them, the records of the credentials that are alive, in the order of their issue (`Custody.Sound`); the paths of
records are different from each other and from those of the start.

Main statement: `Custody.records_match_credentials`.
-/

namespace RemoteDesktop

/-! ### One file -/

namespace Directory

variable {d next : Directory} {path : String}

theorem contents?_eq_none_iff : d.contents? path = none ↔ path ∉ d.files.map (·.1) := by
  rw [contents?, List.lookup_eq_none_iff, List.mem_map]
  constructor
  · rintro h ⟨file, hfile, rfl⟩
    exact absurd (h file hfile) (by simp)
  · intro h file hfile
    by_cases hpath : path = file.1
    · exact absurd ⟨file, hfile, hpath.symm⟩ h
    · simpa using hpath

theorem unlink_of_not_mem (h : path ∉ d.files.map (·.1)) : d.unlink path = d := by
  obtain ⟨files⟩ := d
  refine congrArg Directory.mk (List.filter_eq_self.2 fun file hfile => ?_)
  have hne : file.1 ≠ path := fun he => h (he ▸ List.mem_map_of_mem hfile)
  simpa using hne

/-- What a file held before it was removed does not matter. -/
theorem unlink_overwrite (path : String) (contents : ByteArray) (d : Directory) :
    (d.overwrite path contents).unlink path = d.unlink path := by
  obtain ⟨files⟩ := d
  refine congrArg Directory.mk ?_
  simp only [overwrite]
  induction files with
  | nil => rfl
  | cons file files ih =>
    by_cases hpath : file.1 = path
    · simp only [List.map_cons, if_pos hpath]
      rw [List.filter_cons_of_neg (by simp), List.filter_cons_of_neg (by simpa using hpath), ih]
    · simp only [List.map_cons, if_neg hpath]
      rw [List.filter_cons_of_pos (by simpa using hpath), List.filter_cons_of_pos (by simpa using hpath), ih]

/-- The removal of a file leaves all others as they were. -/
theorem contents?_unlink_of_ne {other : String} (h : other ≠ path) : (d.unlink path).contents? other = d.contents? other := by
  obtain ⟨files⟩ := d
  simp only [contents?, unlink]
  induction files with
  | nil => rfl
  | cons file files ih =>
    obtain ⟨name, contents⟩ := file
    by_cases hpath : name = path
    · rw [List.filter_cons_of_neg (by simpa using hpath), ih, List.lookup_cons, beq_false_of_ne (hpath ▸ h)]
    · rw [List.filter_cons_of_pos (by simpa using hpath), List.lookup_cons, List.lookup_cons, ih]

/-- A handle that has not removed its record does so. -/
theorem remove_eq {credential : Credential} (h : credential.removed = false) :
    d.remove credential = ({ credential with removed := true }, d.unlink credential.path) := by
  rw [remove, h]
  cases d.contents? credential.path with
  | none => rfl
  | some contents =>
    simp only [Bool.false_eq_true, if_false]
    rw [unlink_overwrite]

theorem remove_of_removed {credential : Credential} (h : credential.removed = true) :
    d.remove credential = (credential, d) := if_pos h

/-- A new file can be removed again, and be given its contents; the others stay as they were. -/
theorem unlink_append (h : path ∉ d.files.map (·.1)) (contents : ByteArray) :
    unlink path { files := d.files ++ [(path, contents)] } = d := by
  have hrest := congrArg files (unlink_of_not_mem h)
  obtain ⟨files⟩ := d
  refine congrArg Directory.mk ?_
  rw [List.filter_append, List.filter_singleton]
  simpa [unlink] using hrest

theorem overwrite_append (h : path ∉ d.files.map (·.1)) (before contents : ByteArray) :
    (overwrite path contents { files := d.files ++ [(path, before)] }).files = d.files ++ [(path, contents)] := by
  have hrest : d.files.map (fun file => if file.1 = path then (path, contents) else file) = d.files := by
    conv_rhs => rw [← List.map_id d.files]
    refine List.map_congr_left fun file hfile => ?_
    have hne : file.1 ≠ path := fun he => h (List.mem_map.2 ⟨file, hfile, he⟩)
    rw [if_neg hne]
    rfl
  rw [overwrite, List.map_append, hrest, List.map_singleton, if_pos rfl]

theorem contents?_append (h : d.contents? path = none) {contents : ByteArray}
    (hfiles : next.files = d.files ++ [(path, contents)]) : next.contents? path = some contents := by
  rw [contents?] at h
  rw [contents?, hfiles, List.lookup_append, h, Option.none_or, List.lookup_cons_self]

theorem store_of_free (h : d.contents? path = none) (username : String) (hash : NtHash) :
    ∃ next, d.store path none username hash = (.ok { username, hash, path }, next) ∧
      next.files = d.files ++ [(path, Record.file username hash)] := by
  refine ⟨_, ?_, overwrite_append (contents?_eq_none_iff.1 h) ByteArray.empty _⟩
  simp only [store, create, h, Option.isSome_none, Bool.false_eq_true, if_false]

/-- A record is stored under its path, if that is free, or nothing is changed. -/
theorem store_cases (path : String) (writeFailure : Option FileError) (username : String) (hash : NtHash)
    (d : Directory) :
    (∃ e, d.store path writeFailure username hash = (.error e, d)) ∨
      d.contents? path = none ∧ ∃ next, d.store path writeFailure username hash = (.ok { username, hash, path }, next) ∧
        next.files = d.files ++ [(path, Record.file username hash)] := by
  cases hcontents : d.contents? path with
  | some contents =>
    refine .inl ⟨.io path .alreadyExists, ?_⟩
    simp only [store, create, hcontents, Option.isSome_some, if_true]
  | none =>
    cases writeFailure with
    | some cause =>
      refine .inl ⟨.io path cause, ?_⟩
      simp only [store, create, hcontents, Option.isSome_none, Bool.false_eq_true, if_false]
      rw [remove_eq rfl, unlink_append (contents?_eq_none_iff.1 hcontents)]
    | none => exact .inr ⟨rfl, store_of_free hcontents username hash⟩

/-- A credential is issued with its record, or the directory stays as it is. -/
theorem issueSecret_cases (path : String) (writeFailure : Option FileError) (username : String) (secret : Secret)
    (d : Directory) :
    (∃ e, d.issueSecret path writeFailure username secret = (.error e, d)) ∨
      ∃ credential next, d.issueSecret path writeFailure username secret = (.ok credential, next) ∧
        credential.username = username ∧ credential.path = path ∧ credential.removed = false ∧
        next.files = d.files ++ [Custody.record credential] := by
  have hstore : ∀ hash, (∃ e, d.store path writeFailure username hash = (.error e, d)) ∨
      ∃ credential next, d.store path writeFailure username hash = (.ok credential, next) ∧
        credential.username = username ∧ credential.path = path ∧ credential.removed = false ∧
        next.files = d.files ++ [Custody.record credential] := by
    intro hash
    rcases store_cases path writeFailure username hash d with hrefused | ⟨-, next, hstored, hfiles⟩
    · exact .inl hrefused
    · exact .inr ⟨_, next, hstored, rfl, rfl, rfl, hfiles⟩
  cases hname : Record.checkUsername username with
  | error e =>
    refine .inl ⟨e, ?_⟩
    cases secret <;> simp only [issueSecret, issuePassword, issue, issueHex, hname]
  | ok _ =>
    cases secret with
    | password password =>
      rw [issueSecret, issuePassword, issue, hname]
      exact hstore _
    | hash hash =>
      rw [issueSecret, issue, hname]
      exact hstore hash
    | digits digits =>
      rw [issueSecret, issueHex, hname]
      cases NtHash.ofHex? digits.toList with
      | none => exact .inl ⟨_, rfl⟩
      | some hash => exact hstore hash

end Directory

/-! ### All of them -/

namespace Custody

variable {start : Directory} {done : List Act} {c : Custody} {index : Nat} {credential : Credential}

/-- How a directory that was as in `start` stands to its credentials, after some acts. -/
structure Sound (start : Directory) (done : List Act) (c : Custody) : Prop where
  files : c.directory.files = start.files ++ c.records
  nodup : (c.alive.map (·.path)).Nodup
  apart : ∀ x ∈ c.alive, x.path ∉ start.files.map (·.1)
  unremoved : ∀ x ∈ c.alive, x.removed = false
  issued : ∀ x ∈ c.alive, x.path ∈ paths done
  lost : ∀ path ∈ c.lost, path ∈ paths done

/-- Where the paths differ, what is left of the credentials without one of them is what is left without its path. -/
theorem eraseIdx_eq_filter {alive : List Credential} (h : (alive.map (·.path)).Nodup)
    (hget : alive[index]? = some credential) : alive.eraseIdx index = alive.filter (·.path ≠ credential.path) := by
  induction alive generalizing index with
  | nil => cases hget
  | cons x alive ih =>
    obtain ⟨hx, hrest⟩ := List.nodup_cons.1 h
    cases index with
    | zero =>
      have hhead : x = credential := Option.some_inj.1 hget
      subst hhead
      rw [List.eraseIdx_cons_zero, List.filter_cons_of_neg (by simp), List.filter_eq_self.2]
      intro y hy
      have hne : y.path ≠ x.path := fun he => hx (List.mem_map.2 ⟨y, hy, he⟩)
      simpa using hne
    | succ index =>
      rw [List.getElem?_cons_succ] at hget
      have hmem := List.mem_of_getElem? hget
      have hne : x.path ≠ credential.path := fun he => hx (List.mem_map.2 ⟨credential, hmem, he.symm⟩)
      rw [List.eraseIdx_cons_succ, List.filter_cons_of_pos (by simpa using hne), ih hrest hget]

theorem paths_append (done acts : List Act) : paths (done ++ acts) = paths done ++ paths acts :=
  List.filterMap_append

theorem mem_paths_singleton {path : String} {a : Act} : path ∈ paths [a] ↔ path ∈ a.path? := by
  cases hpath : a.path? <;> simp [paths, hpath, eq_comm]

namespace Sound

theorem initial (start : Directory) : Sound start [] { directory := start } := by
  refine ⟨?_, .nil, ?_, ?_, ?_, ?_⟩
  · rw [records, List.filter_nil, List.map_nil, List.append_nil]
  all_goals intro x hx; cases hx

/-- Acts that issue nothing leave what was said of paths true. -/
theorem mono (h : Sound start done c) (a : Act) : Sound start (done ++ [a]) c := by
  refine { h with issued := fun x hx => ?_, lost := fun path hpath => ?_ }
  · rw [paths_append]
    exact List.mem_append_left _ (h.issued x hx)
  · rw [paths_append]
    exact List.mem_append_left _ (h.lost path hpath)

/-- The removal of the record of a credential takes this one from the records, and nothing else. -/
theorem unlink (h : Sound start done c) (hget : c.alive[index]? = some credential) :
    (c.directory.unlink credential.path).files =
      start.files ++ ((c.alive.filter (·.path ≠ credential.path)).filter (·.path ∉ c.lost)).map record := by
  have hmem := List.mem_of_getElem? hget
  have hstart := congrArg Directory.files (Directory.unlink_of_not_mem (h.apart credential hmem))
  simp only [Directory.unlink] at hstart ⊢
  rw [h.files, List.filter_append, hstart, records, List.filter_map, List.filter_filter, List.filter_filter]
  refine congrArg (fun kept => start.files ++ kept.map record) (List.filter_congr fun x _ => ?_)
  exact Bool.and_comm _ _

/-- A credential that is alive removes its record. -/
theorem removes (h : Sound start done c) (hget : c.alive[index]? = some credential) :
    Sound start done { c with directory := c.directory.unlink credential.path, alive := c.alive.eraseIdx index } := by
  have herase := eraseIdx_eq_filter h.nodup hget
  have hsub : (c.alive.eraseIdx index).Sublist c.alive := List.eraseIdx_sublist _ _
  refine ⟨?_, h.nodup.sublist (hsub.map _), fun x hx => h.apart x (hsub.subset hx),
    fun x hx => h.unremoved x (hsub.subset hx), fun x hx => h.issued x (hsub.subset hx), h.lost⟩
  rw [h.unlink hget, records, herase]

/-- A record that somebody else deletes is not missed. -/
theorem loses (h : Sound start done c) (hget : c.alive[index]? = some credential) :
    Sound start done
      { c with directory := c.directory.unlink credential.path, lost := credential.path :: c.lost } := by
  have hmem := List.mem_of_getElem? hget
  refine ⟨?_, h.nodup, h.apart, h.unremoved, h.issued, List.forall_mem_cons.2 ⟨h.issued credential hmem, h.lost⟩⟩
  rw [h.unlink hget, records, List.filter_filter]
  refine congrArg (fun kept => start.files ++ kept.map record) (List.filter_congr fun x _ => ?_)
  simp [Bool.and_comm]

theorem act (h : Sound start done c) (a : Act) (hnew : ∀ path ∈ a.path?, path ∉ paths done)
    (hstart : ∀ path ∈ a.path?, path ∉ start.files.map (·.1)) : Sound start (done ++ [a]) (c.act a) := by
  cases a with
  | issue path writeFailure username secret =>
    have hpath := hnew path rfl
    rcases Directory.issueSecret_cases path writeFailure username secret c.directory with
      ⟨e, hrefused⟩ | ⟨credential, next, hissued, -, rfl, hremoved, hfiles⟩
    · rw [Custody.act, hrefused]
      exact h.mono _
    · rw [Custody.act, hissued]
      have hgrown := h.mono (.issue credential.path writeFailure username secret)
      have hmine : credential.path ∈ paths (done ++ [.issue credential.path writeFailure username secret]) := by
        rw [paths_append]
        exact List.mem_append_right _ (mem_paths_singleton.2 rfl)
      refine ⟨?_, ?_, ?_, ?_, ?_, hgrown.lost⟩
      · have hlost : credential.path ∉ c.lost := fun hlost => hpath (h.lost _ hlost)
        rw [hfiles, h.files, List.append_assoc, records, records, List.filter_append, List.map_append,
          List.filter_cons_of_pos (by simpa using hlost)]
        rfl
      · rw [List.map_append, List.map_singleton]
        refine h.nodup.append (List.nodup_singleton _) fun other hother hnew => ?_
        obtain rfl := List.mem_singleton.1 hnew
        obtain ⟨x, hx, hxpath⟩ := List.mem_map.1 hother
        exact hpath (hxpath ▸ h.issued x hx)
      · exact List.forall_mem_append.2 ⟨h.apart, List.forall_mem_singleton.2 (hstart _ rfl)⟩
      · exact List.forall_mem_append.2 ⟨h.unremoved, List.forall_mem_singleton.2 hremoved⟩
      · exact List.forall_mem_append.2 ⟨hgrown.issued, List.forall_mem_singleton.2 hmine⟩
  | free index =>
    rw [Custody.act]
    cases hget : c.alive[index]? with
    | none => exact h.mono _
    | some credential =>
      -- the drop at the end finds the record marked as removed
      simp only [Directory.remove_eq (h.unremoved credential (List.mem_of_getElem? hget))]
      rw [Directory.remove_of_removed rfl]
      exact (h.removes hget).mono _
  | drop index =>
    rw [Custody.act]
    cases hget : c.alive[index]? with
    | none => exact h.mono _
    | some credential =>
      simp only [Directory.remove_eq (h.unremoved credential (List.mem_of_getElem? hget))]
      exact (h.removes hget).mono _
  | delete index =>
    rw [Custody.act]
    cases hget : c.alive[index]? with
    | none => exact h.mono _
    | some credential => exact (h.loses hget).mono _

theorem run {acts : List Act} (h : Sound start done c) (hfresh : Fresh start (done ++ acts)) :
    Sound start (done ++ acts) (c.run acts) := by
  induction acts generalizing done c with
  | nil => rwa [List.append_nil]
  | cons a acts ih =>
    rw [List.append_cons] at hfresh ⊢
    obtain ⟨hnodup, hstart⟩ := hfresh
    have hfirst : (paths (done ++ [a])).Nodup := by
      rw [paths_append] at hnodup
      exact hnodup.of_append_left
    have hnew : ∀ path ∈ a.path?, path ∉ paths done := by
      intro path hpath hdone
      rw [paths_append] at hfirst
      exact List.disjoint_of_nodup_append hfirst hdone (mem_paths_singleton.2 hpath)
    have hapart : ∀ path ∈ a.path?, path ∉ start.files.map (·.1) := by
      intro path hpath
      refine hstart path ?_
      rw [paths_append, paths_append]
      exact List.mem_append_left _ (List.mem_append_right _ (mem_paths_singleton.2 hpath))
    exact ih (h.act a hnew hapart) ⟨hnodup, hstart⟩

/-- Neither freeing nor dropping a credential touches another file. -/
theorem contents?_of_ne (h : Sound start done c) (hget : c.alive[index]? = some credential) {other : String}
    (hother : other ≠ credential.path) :
    (c.act (.free index)).directory.contents? other = c.directory.contents? other ∧
      (c.act (.drop index)).directory.contents? other = c.directory.contents? other := by
  have hremove : c.directory.remove credential =
      ({ credential with removed := true }, c.directory.unlink credential.path) :=
    Directory.remove_eq (h.unremoved credential (List.mem_of_getElem? hget))
  constructor
  · simp only [Custody.act, hget, hremove]
    rw [Directory.remove_of_removed rfl, Directory.contents?_unlink_of_ne hother]
  · simp only [Custody.act, hget, hremove]
    rw [Directory.contents?_unlink_of_ne hother]

end Sound

/-- **Records and credentials.** Issue, free and drop credentials in any order, refused names, failing writes and
records that disappear included: as long as every new record has a path of its own, the directory has the files of
the start and the records of the credentials that are alive, and once none is alive it is as at the start. A
credential that is refused leaves no file, one that is issued leaves its record, and no credential touches a file
other than its own when it is freed or dropped. -/
theorem records_match_credentials {acts : List Act} (hfresh : Fresh start acts) :
    let c := Custody.run { directory := start } acts
    c.directory.files = start.files ++ c.records ∧ (c.alive = [] → c.directory = start) ∧
      (∀ path writeFailure username secret,
        (∃ e, c.directory.issueSecret path writeFailure username secret = (.error e, c.directory)) ∨
          ∃ credential next, c.directory.issueSecret path writeFailure username secret = (.ok credential, next) ∧
            credential.username = username ∧ credential.path = path ∧
            next.files = c.directory.files ++ [record credential]) ∧
      (start.files.map (·.1)).Disjoint (c.alive.map (·.path)) ∧ (c.alive.map (·.path)).Nodup ∧
      ∀ index credential, c.alive[index]? = some credential → ∀ other ≠ credential.path,
        (c.act (.free index)).directory.contents? other = c.directory.contents? other ∧
          (c.act (.drop index)).directory.contents? other = c.directory.contents? other := by
  intro c
  have h : Sound start acts c := (Sound.initial start).run hfresh
  refine ⟨h.files, fun hnone => ?_, fun path writeFailure username secret => ?_, fun path hpath hmine => ?_, h.nodup,
    fun index credential hget other hother => h.contents?_of_ne hget hother⟩
  · have hfiles := h.files
    rw [records, hnone, List.filter_nil, List.map_nil, List.append_nil] at hfiles
    cases hdirectory : c.directory
    rw [hdirectory] at hfiles
    exact congrArg Directory.mk hfiles
  · rcases Directory.issueSecret_cases path writeFailure username secret c.directory with
      hrefused | ⟨credential, next, hissued, husername, hpath, -, hfiles⟩
    · exact .inl hrefused
    · exact .inr ⟨credential, next, hissued, husername, hpath, hfiles⟩
  · obtain ⟨x, hx, rfl⟩ := List.mem_map.1 hmine
    exact h.apart x hx hpath

/-- A hash of zeros. -/
def zeroHash : NtHash := ⟨List.replicate 16 0, rfl⟩

/-- Two credentials are issued and a third one fails; the record of the first is deleted behind its back, and then
the first is freed. -/
def errands : List Act :=
  [.issue "sam-0" none "alice" (.hash zeroHash), .issue "sam-1" (some (.other "disk full")) "bob" (.hash zeroHash),
    .issue "sam-2" none "bob" (.hash zeroHash), .delete 0, .free 0]

theorem records_match_credentials_errands :
    let start : Directory := { files := [("notes", ByteArray.empty)] }
    Fresh start errands ∧ (run { directory := start } errands).alive = [⟨"bob", zeroHash, "sam-2", false⟩] ∧
      (run { directory := start } errands).directory.files =
        [("notes", ByteArray.empty), ("sam-2", Record.file "bob" zeroHash)] := by
  intro start
  have hfresh : Fresh start errands := by
    constructor
    · show ["sam-0", "sam-1", "sam-2"].Nodup
      simp
    · show ∀ path ∈ ["sam-0", "sam-1", "sam-2"], path ∉ ["notes"]
      simp
  have halive : (run { directory := start } errands).alive = [⟨"bob", zeroHash, "sam-2", false⟩] := rfl
  have hlost : (run { directory := start } errands).lost = ["sam-0"] := rfl
  have hfiles := (records_match_credentials hfresh).1
  rw [records, halive, hlost] at hfiles
  exact ⟨hfresh, halive, hfiles⟩

end Custody

end RemoteDesktop
