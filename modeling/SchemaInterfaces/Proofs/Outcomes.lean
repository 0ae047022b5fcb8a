import SchemaInterfaces.Command.Run
import SchemaInterfaces.Proofs.Growth

/-! How command lines end: which of them leave a disk as it was, and when a settings file is
replaced. -/
namespace SchemaInterfaces.Disk

/-- What is anywhere on the disk is in a folder. -/
def Tree.Rooted (t : Tree) : Prop :=
  ∀ l e, t.entry? l = some e → t.entry? l.dropLast = some .folder

variable {t : Tree} {l k : Location} {e : Entry} {p : Path}

/-- Above everything there are folders. -/
theorem Tree.Rooted.folder_of_prefix (h : t.Rooted) (he : t.entry? l = some e) (hk : k <+: l)
    (hne : k ≠ l) : t.entry? k = some .folder := by
  obtain ⟨names, rfl⟩ := hk
  induction names using List.reverseRecOn generalizing e with
  | nil => exact (hne (List.append_nil k).symm).elim
  | append_singleton names name ih =>
    have hup := h _ _ he
    rw [← List.append_assoc, List.dropLast_concat] at hup
    by_cases hsame : k = k ++ names
    · rwa [← hsame] at hup
    · exact ih hup hsame

theorem Tree.Rooted.ne_none_of_prefix (h : t.Rooted) (he : t.entry? l = some e) (hk : k <+: l) :
    t.entry? k ≠ none := by
  by_cases hsame : k = l
  · simp [hsame, he]
  · simp [h.folder_of_prefix he hk hsame]

theorem Path.prefix_foldl_enter {front names : List String} (h : ".." ∉ names)
    (hfront : front <+: names) : front.foldl enter l <+: names.foldl enter l := by
  obtain ⟨rest, rfl⟩ := hfront
  rw [List.foldl_append]
  have hstays : StaysIn 0 rest := staysIn_of_notMem fun hup => h (List.mem_append_right front hup)
  exact hstays.prefix_foldl_self

/-- A path that operations take and that never leads up again. -/
structure Path.Descends (p : Path) : Prop where
  given : p.text ≠ ""
  character : '\x00' ∉ p.text.toList
  short : p.isTooLong = false
  names : ∀ name ∈ p.names, name.utf8ByteSize ≤ 255
  up : ".." ∉ p.names

theorem Path.Descends.start (h : p.Descends) (t : Tree) :
    t.start p = .ok (p.base t.here, p.names) := by
  simp [Tree.start, h.given, h.character, h.short, Path.base]

/-- On a disk where everything is in folders, a path that only descends leads to the folder that is
where it points. -/
theorem Tree.Rooted.has_of_descends (h : t.Rooted) (hp : p.Descends)
    (hfolder : t.entry? (p.locationFrom t.here) = some .folder) : t.has p = true := by
  have hleads : t.Leads (p.base t.here) p.names := by
    intro front hfront _
    by_cases hsame : front.foldl Path.enter (p.base t.here) = p.locationFrom t.here
    · rw [hsame, hfolder]
    · exact h.folder_of_prefix hfolder (Path.prefix_foldl_enter hp.up hfront) hsame
  have hfind : t.find p = .ok (p.locationFrom t.here, .folder) :=
    Tree.find_eq_ok_iff.mpr ⟨hp.start t, Tree.foldlM_enter_eq_ok_iff.mpr
      ⟨hleads, fun name hname => .inr (.inr (hp.names name hname)), rfl⟩, hfolder, fun _ => rfl⟩
  rw [Tree.has, hfind]
  rfl

end SchemaInterfaces.Disk

namespace SchemaInterfaces.Command
open Disk Disk.Tree

/-- Why a command line does not succeed. -/
inductive Refusal where
  | usage (u : Usage)
  | failure (f : Failure)

/-- Something could not be made or written, after other things perhaps were. -/
def Refusal.IsLate : Refusal → Prop
  | .failure (.output _) | .failure (.setup _) => True
  | _ => False

/-- What a command line comes to on a disk. -/
def runLine (env : Environment) (arguments : List String) (t : Tree) :
    Except Refusal String × Tree :=
  match ofArguments arguments with
  | .error u => (.error (.usage u), t)
  | .ok c => ((c.run env t).1.mapError .failure, (c.run env t).2)

variable {env : Environment} {arguments : List String} {t t' u : Tree} {l : Location}
  {content : Content} {failure : Failure} {refusal : Refusal} {e : Export} {s : Setup}
  {said : String} {result : Except Failure String}

/-- An export that fails before it writes leaves the disk as it was. -/
theorem Export.eq_of_run_error (h : e.run env t = (.error failure, t'))
    (hlate : ¬ (Refusal.failure failure).IsLate) : t' = t := by
  unfold Export.run at h
  split at h
  · exact (congrArg Prod.snd h).symm
  · split at h
    · obtain ⟨rfl, -⟩ : .output _ = failure ∧ _ = t' := by simpa using h
      exact (hlate trivial).elim
    · cases h

theorem Export.run_of_unreadable {error : SettingsError}
    (h : Settings.load env t e.config = .error error) :
    e.run env t = (.error (.settings e.config error), t) := by
  rw [Export.run, Export.prepare, h]
  rfl

/-- The folder that an export writes into. -/
def Export.target (e : Export) (settings : Settings) : Path :=
  ⟨(e.override settings.exported).outDir⟩

theorem Export.run_of_there {settings : Settings} (h : Settings.load env t e.config = .ok settings)
    (hthere : t.has (e.target settings)) (hyes : e.yes = false) :
    e.run env t = (.error .unconfirmed, t) := by
  rw [Export.target] at hthere
  have hprepare : e.prepare env t = .error .unconfirmed := by
    simp [Export.prepare, h, hthere, hyes, Except.mapError, bind, Except.bind, throw, throwThe,
      MonadExceptOf.throw]
  rw [Export.run, hprepare]

theorem ordinary_settings : Ordinary Settings.fileName := by decide

theorem Setup.names_file (s : Setup) : s.file.names = s.dir.names ++ [Settings.fileName] :=
  Path.names_join_name s.dir ordinary_settings

theorem Setup.base_file (s : Setup) (here : Location) : s.file.base here = s.dir.base here :=
  Path.base_join (TypeScript.isAbsolute_of_notMem ordinary_settings.no_slash)

/-- Where the settings file of a setup lies. -/
def Setup.location (s : Setup) (t : Tree) : Location := s.file.locationFrom t.here

/-- The ways in which a setup ends. -/
inductive Setup.Ends (s : Setup) (t : Tree) : Except Failure String → Tree → Prop where
  | refused (hthere : t.has s.file) (hforce : s.force = false) :
    Ends s t (.error (.existing s.file)) t
  | stopped {fault : Fault} {u : Tree} (hfree : t.has s.file → s.force)
    (hgrows : Grows (s.dir.Passes t.here) (fun _ _ => False) t u) :
    Ends s t (.error (.setup fault)) u
  | done {said : String} {u : Tree} (hfree : t.has s.file → s.force)
    (hgrows : Grows (s.dir.Passes t.here)
      (fun l content => l = s.location t ∧ content = .text s.settings.render) t u)
    (hfind : u.find s.file = .ok (s.location t, .file (.text s.settings.render))) :
    Ends s t (.ok said) u

theorem Setup.ends_run (s : Setup) (t : Tree) : s.Ends t (s.run t).1 (s.run t).2 := by
  have hgrows := grows_makeFolders s.dir t
  unfold Setup.run
  split
  · rename_i h
    simp only [Bool.and_eq_true, Bool.not_eq_true'] at h
    exact .refused h.1 h.2
  · rename_i h
    have hfree : t.has s.file → s.force := by simpa using h
    split
    · rename_i fault u hmake
      rw [hmake] at hgrows
      exact .stopped hfree hgrows
    · rename_i x u hmake
      rw [hmake] at hgrows
      split
      · exact .stopped hfree hgrows
      · rename_i v hwrite
        obtain ⟨hne, rfl, hfind⟩ := writeFile_eq_ok hwrite
        rw [hgrows.here] at hne hfind ⊢
        refine .done hfree (.trans ?_ (grows_put_file hne ⟨rfl, rfl⟩)) hfind
        exact hgrows.mono (fun _ h => h) fun _ _ h => h.elim

/-- Without leave to replace it, a settings file that is there is kept, unless its path does not
lead to it because a folder on the way is missing. -/
theorem Setup.Ends.replaced (h : s.Ends t result t') (hforce : s.force = false)
    (hentry : t.entry? l = some (.file content)) (hne : t'.entry? l ≠ some (.file content)) :
    l = s.location t ∧ t.has s.file = false ∧ (∃ said, result = .ok said) ∧
      ∃ front, front <+: s.dir.names ∧
        t.entry? (front.foldl Path.enter (s.dir.base t.here)) = none := by
  cases h with
  | refused => exact (hne hentry).elim
  | stopped _ hgrows => exact (hne (hgrows.entry hentry fun _ h => h)).elim
  | done hfree hgrows hfind =>
    have hgone : t.has s.file = false := by
      by_contra hthere
      have hleave := hfree (by simpa using hthere)
      rw [hforce] at hleave
      contradiction
    rcases hgrows.of_ne (fun hsame => hne (hsame.trans hentry)) with ⟨-, hnone, -⟩ | ⟨_, hl, -⟩
    · rw [hentry] at hnone
      contradiction
    · obtain ⟨rfl, -⟩ := hl
      refine ⟨rfl, hgone, ⟨_, rfl⟩, ?_⟩
      have hslash : s.file.endsInSlash → Entry.file content = .folder :=
        fun hend => (not_endsInSlash_of_find hfind hend).elim
      rcases hgrows.find_or_missing hfind hentry hslash with hfound | ⟨front, hfront, hne', hnone⟩
      · rw [has, hfound] at hgone
        contradiction
      · rw [Setup.names_file] at hfront hne'
        rw [Setup.base_file] at hnone
        exact ⟨front, (List.prefix_concat_iff.mp hfront).resolve_left hne', hnone⟩

/-- On a disk where everything is in folders, only two points lead to a file past a folder that is
missing. -/
theorem Setup.up_mem_of_missing (hrooted : t.Rooted) {front : List String}
    (hentry : t.entry? (s.location t) = some (.file content)) (hfront : front <+: s.dir.names)
    (hnone : t.entry? (front.foldl Path.enter (s.dir.base t.here)) = none) :
    ".." ∈ s.dir.names := by
  by_contra hup
  rw [Setup.location, Path.locationFrom, Setup.names_file, Setup.base_file,
    List.foldl_append] at hentry
  refine hrooted.ne_none_of_prefix hentry ?_ hnone
  exact (Path.prefix_foldl_enter hup hfront).trans (List.prefix_append _ [Settings.fileName])

theorem Setup.run_of_there (hthere : t.has s.file) (hforce : s.force = false) :
    s.run t = (.error (.existing s.file), t) := by
  simp [Setup.run, hthere, hforce]

/-- A setup that ends well has written its settings. -/
theorem Setup.Ends.entry (h : s.Ends t (.ok said) t') :
    t'.entry? (s.location t) = some (.file (.text s.settings.render)) := by
  cases h with
  | done _ _ hfind => exact (location_of_find hfind).2

/-- A setup that is refused before it makes anything leaves the disk as it was. -/
theorem Setup.Ends.eq_of_error (h : s.Ends t (.error failure) t')
    (hlate : ¬ (Refusal.failure failure).IsLate) : t' = t := by
  cases h with
  | refused => rfl
  | stopped => exact (hlate trivial).elim

theorem runLine_usage {u : Usage} (h : ofArguments arguments = .error u) :
    runLine env arguments t = (.error (.usage u), t) := by
  rw [runLine, h]

theorem runLine_command {c : Command} (h : ofArguments arguments = .ok c)
    (hrun : c.run env t = (result, t')) :
    runLine env arguments t = (result.mapError .failure, t') := by
  rw [runLine, h]
  dsimp only
  rw [hrun]

theorem eq_of_refused (h : runLine env arguments t = (.error refusal, t'))
    (hlate : ¬ refusal.IsLate) : t' = t := by
  cases harguments : ofArguments arguments with
  | error u =>
    rw [runLine_usage harguments] at h
    exact (congrArg Prod.snd h).symm
  | ok c =>
    cases hrun : c.run env t with
    | mk result u =>
      rw [runLine_command harguments hrun] at h
      obtain ⟨hresult, rfl⟩ := Prod.mk.inj h
      cases result with
      | ok said => contradiction
      | error failure =>
        obtain rfl := Except.error.inj hresult
        cases c with
        | exportAll e => exact Export.eq_of_run_error hrun hlate
        | setUp s =>
          have hends := s.ends_run t
          have hset : s.run t = (.error failure, u) := hrun
          rw [hset] at hends
          exact hends.eq_of_error hlate

/-- A command line that is refused, other than because something could not be made or written,
leaves the disk as it was. So does every export into a folder that its path leads to, and every
setup of a file that its path leads to, without leave to overwrite. On a disk where everything is in
folders a path leads to every folder that it points at, unless it goes up on the way. A setup
without this leave writes its settings where its path leads once missing folders are made. It
replaces a file only if a folder on the way there was missing, and on such a disk its path then goes
up again. -/
theorem runLine_unchanged (env : Environment) (arguments : List String) (t : Tree) :
    ∃ result t', runLine env arguments t = (result, t') ∧
      (∀ refusal, result = .error refusal → ¬ refusal.IsLate → t' = t) ∧
      (∀ e, ofArguments arguments = .ok (.exportAll e) →
        (∀ error, Settings.load env t e.config = .error error →
          result = .error (.failure (.settings e.config error)) ∧ t' = t) ∧
        ∀ settings, Settings.load env t e.config = .ok settings → e.yes = false →
          t.has (e.target settings) ∨ t.Rooted ∧ (e.target settings).Descends ∧
            t.entry? ((e.target settings).locationFrom t.here) = some .folder →
          result = .error (.failure .unconfirmed) ∧ t' = t) ∧
      ∀ s, ofArguments arguments = .ok (.setUp s) → s.force = false →
        (t.has s.file → result = .error (.failure (.existing s.file)) ∧ t' = t) ∧
        (∀ said, result = .ok said →
          t'.entry? (s.location t) = some (.file (.text s.settings.render))) ∧
        ∀ l content, t.entry? l = some (.file content) → t'.entry? l ≠ some (.file content) →
          l = s.location t ∧ t.has s.file = false ∧ (∃ said, result = .ok said) ∧
            (∃ front, front <+: s.dir.names ∧
              t.entry? (front.foldl Path.enter (s.dir.base t.here)) = none) ∧
            (t.Rooted → ".." ∈ s.dir.names) := by
  refine ⟨(runLine env arguments t).1, (runLine env arguments t).2, rfl,
    fun refusal h hlate => eq_of_refused (Prod.ext h rfl) hlate, ?_, ?_⟩
  · intro e he
    constructor
    · intro error herror
      rw [runLine_command he (Export.run_of_unreadable herror)]
      exact ⟨rfl, rfl⟩
    · intro settings hsettings hyes hexists
      have hthere : t.has (e.target settings) :=
        hexists.elim id fun h => h.1.has_of_descends h.2.1 h.2.2
      rw [runLine_command he (Export.run_of_there hsettings hthere hyes)]
      exact ⟨rfl, rfl⟩
  · intro s hs hforce
    have hends := s.ends_run t
    cases hrun : s.run t with
    | mk result t' =>
      have hline : runLine env arguments t = (result.mapError .failure, t') :=
        runLine_command hs hrun
      rw [hrun] at hends
      rw [hline]
      refine ⟨fun hthere => ?_, fun said hsaid => ?_, fun l content hentry hne => ?_⟩
      · rw [Setup.run_of_there hthere hforce] at hrun
        obtain ⟨rfl, rfl⟩ := Prod.mk.inj hrun
        exact ⟨rfl, rfl⟩
      · cases result with
        | error failure => contradiction
        | ok done => exact hends.entry
      · obtain ⟨rfl, hgone, ⟨said, rfl⟩, front, hfront, hnone⟩ :=
          hends.replaced hforce hentry hne
        refine ⟨rfl, hgone, ⟨said, rfl⟩, ⟨front, hfront, hnone⟩, fun hrooted => ?_⟩
        exact Setup.up_mem_of_missing hrooted hentry hfront hnone

/-- A folder that its path leads to only once another is made is written into without leave, and a
settings file in such a folder is replaced. -/
theorem runLine_replaced :
    (let t : Tree := ⟨[
        (["tsexport.toml"],
          .file (.text "[export]\noutdir = \"gone/../gen\"\nsource = \"models\"\n")),
        (["schema"], .folder),
        (["schema", "a.json"], .file (.text
          "\x7b\"namespace\": \"n\", \"entities\": [\x7b\"name\": \"A\"\x7d]\x7d")),
        (["gen"], .folder),
        (["gen", "n"], .folder),
        (["gen", "n", "A.ts"], .file (.text "keep"))], []⟩
      let run := runLine (fun _ => none) ["export"] t
      run.1.toOption =
        some "\n  ✓ Generated 1 interfaces for backend\n  → Output: gone/../gen\n\n" ∧
      Tree.entry? run.2 ["gen", "n", "A.ts"] =
        some (.file (.text "export interface A \x7b\n  id: number;\n\x7d\n\n"))) ∧
    (let t : Tree := ⟨[(["b"], .folder), (["b", "tsexport.toml"], .file (.text "keep"))], []⟩
      let run := runLine (fun _ => none) ["init", "a/../b"] t
      run.1.toOption = some "✓ Created a/../b/tsexport.toml\n" ∧
      Tree.entry? run.2 ["b", "tsexport.toml"] =
        some (.file (.text ({} : Settings).render)) ∧ ({} : Settings).render ≠ "keep") := by
  decide +kernel

end SchemaInterfaces.Command
