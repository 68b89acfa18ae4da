import GuestVault.FileTree.Walk
import GuestVault.Proofs.Text.Encoded
import GuestVault.Proofs.Text.Path

/-!
# Ways through a file tree

A walk takes one step after the other (`walkNames_cons`). One along some names goes on along others
if it comes to something that exists (`goesOn_walk`), so the path of an entry leads to it if the path
of its directory does (`locate_joinPath`), unless the entry is a link that is followed. A path goes on
leading to a directory as long as directories and links are kept (`Keeps.find`).
-/

namespace GuestVault

open GuestVault.Text

/-! ## Steps of a path -/

namespace Route

theorem pieces_ne_nil (path : Bytes) : pieces path ≠ [] := by
  cases path with
  | nil => exact List.cons_ne_nil _ _
  | cons b path =>
    rw [pieces]
    split
    · exact List.cons_ne_nil _ _
    · cases pieces path with
      | nil => exact List.cons_ne_nil _ _
      | cons piece rest => exact List.cons_ne_nil _ _

theorem pieces_append (front back : Bytes) :
    pieces (front ++ slash :: back) = pieces front ++ pieces back := by
  induction front with
  | nil =>
    show (if slash = slash then [] :: pieces back else _) = _
    rw [if_pos rfl]
    rfl
  | cons b front ih =>
    rw [List.cons_append, pieces, pieces]
    split
    · rw [ih, List.cons_append]
    · rw [ih]
      cases hfront : pieces front with
      | nil => exact absurd hfront (pieces_ne_nil front)
      | cons piece rest => rfl

theorem pieces_of_notMem {name : Bytes} (hname : slash ∉ name) : pieces name = [name] := by
  induction name with
  | nil => rfl
  | cons b name ih =>
    rw [List.mem_cons, not_or] at hname
    rw [pieces, if_neg (Ne.symm hname.1), ih hname.2]

/-- A name that an entry of a directory can have. -/
structure Ordinary (name : FileName) : Prop where
  slash_notMem : slash ∉ name
  ne_nil : name ≠ []
  ne_here : name ≠ here
  ne_above : name ≠ above
  length_le : name.length ≤ FileTree.maxNameLength

/-- What stands before a name in a path has the same steps without the slash that ends it. -/
theorem ofBytes_append {front path : Bytes} {name : FileName} (hslash : slash ∉ name)
    (hnil : name ≠ []) (hhead : path.head? = (front ++ [slash]).head?)
    (hpieces : (pieces path).filter (· ≠ []) = (pieces front).filter (· ≠ [])) :
    ofBytes (front ++ slash :: name) =
      { absolute := (ofBytes path).absolute, names := (ofBytes path).names ++ [name]
        toDirectory := false } := by
  have hfilter : [name].filter (· ≠ []) = [name] :=
    List.filter_eq_self.mpr fun n hn => decide_eq_true (List.mem_singleton.mp hn ▸ hnil)
  obtain ⟨last, hlast⟩ := Option.isSome_iff_exists.mp (List.getLast?_isSome.mpr hnil)
  have hend : last ≠ slash := fun h => hslash (List.mem_of_getLast? (h ▸ hlast))
  unfold ofBytes
  rw [Route.mk.injEq]
  refine ⟨?_, ?_, ?_⟩
  · rw [hhead, List.head?_append, List.head?_append]
    rfl
  · rw [pieces_append, List.filter_append, pieces_of_notMem hslash, hfilter, hpieces]
  · rw [List.getLast?_append, List.getLast?_cons, hlast]
    exact decide_eq_false fun h => hend (Option.some.inj h)

theorem ofText_joinPath {root name : String} (hroot : root ≠ "") (hslash : slash ∉ utf8 name)
    (hnil : utf8 name ≠ []) :
    ofText (joinPath root name) =
      { absolute := (ofText root).absolute, names := (ofText root).names ++ [utf8 name]
        toDirectory := false } := by
  have hbyte : utf8 "/" = [slash] := rfl
  have hrelative : isAbsolute name = false := by
    unfold isAbsolute
    cases hchars : name.toList with
    | nil => rfl
    | cons c rest =>
      refine decide_eq_false fun hhead => hslash ?_
      obtain rfl : c = '/' := Option.some.inj hhead
      unfold utf8
      rw [hchars]
      exact List.mem_append_left _ List.mem_cons_self
  rcases joinPath_cases hroot hrelative with ⟨front, hfront, hjoin⟩ | hjoin
  · have hbytes : utf8 root = utf8 front ++ [slash] := by rw [hfront, utf8_append, hbyte]
    unfold ofText
    rw [hjoin, utf8_append, hbytes, List.append_assoc]
    refine ofBytes_append hslash hnil rfl ?_
    rw [pieces_append, List.filter_append]
    exact List.append_nil _
  · unfold ofText
    rw [hjoin, utf8_append, utf8_append, hbyte, List.append_assoc]
    refine ofBytes_append hslash hnil ?_ rfl
    obtain ⟨b, rest, hbytes⟩ :=
      List.exists_cons_of_ne_nil fun h => hroot (utf8_eq_nil_iff.mp h)
    rw [hbytes]
    rfl

end Route

namespace FileTree

open Route

variable {t t' : FileTree} {follow : Bool} {links : Nat} {start dir l : Location}
  {names more : List FileName} {name : FileName}

/-! ## One step -/

/-- What the next name of a path does to a walk. -/
inductive Step where
  | fails (fault : OsFault)
  /-- It names nothing, which only the last name may. -/
  | misses
  | meets (target : Bytes)
  | leads (l : Location)

/-- Where names lead that are not names of entries. -/
def leadOf? (start : Location) (name : FileName) : Option (Except OsFault Location) :=
  if name = here then some (.ok start)
  else if name = above then some (.ok start.dropLast)
  else if name.length > maxNameLength then some (.error .nameTooLong)
  else none

/-- A step to an entry, or to where none is. -/
def stepTo (l : Location) : Option Entry → Step
  | none => .misses
  | some (.link target) => .meets target
  | some _ => .leads l

/-- One step from a location. -/
def step (t : FileTree) (start : Location) (name : FileName) : Step :=
  match t.get? start with
  | none => .fails .noEntry
  | some .directory =>
    match leadOf? start name with
    | some (.ok l) => .leads l
    | some (.error fault) => .fails fault
    | none => stepTo (start ++ [name]) (t.get? (start ++ [name]))
  | some _ => .fails .notDirectory

theorem walkNames_cons (t : FileTree) (follow : Bool)
    (onLink : Location → List FileName → Except OsFault Location) (start : Location)
    (name : FileName) (names : List FileName) :
    t.walkNames follow onLink start (name :: names) =
      match t.step start name with
      | .fails fault => .error fault
      | .misses => if names = [] then .ok (start ++ [name]) else .error .noEntry
      | .meets target =>
        if names = [] ∧ follow = false then .ok (start ++ [name])
        else onLink (if (ofBytes target).absolute then [] else start)
          ((ofBytes target).steps ++ names)
      | .leads l => t.walkNames follow onLink l names := by
  rw [walkNames]
  unfold step leadOf?
  rcases t.get? start with _ | ⟨_ | _ | _ | _ | _⟩
  case some.directory =>
    dsimp only
    by_cases hhere : name = here
    · rw [if_pos hhere, if_pos hhere]
    rw [if_neg hhere, if_neg hhere]
    by_cases habove : name = above
    · rw [if_pos habove, if_pos habove]
    rw [if_neg habove, if_neg habove]
    by_cases hlong : name.length > maxNameLength
    · rw [if_pos hlong, if_pos hlong]
    rw [if_neg hlong, if_neg hlong]
    rcases t.get? (start ++ [name]) with _ | ⟨_ | _ | _ | _ | _⟩
    all_goals rfl
  all_goals rfl

theorem leadOf?_of_ordinary (hname : Ordinary name) (start : Location) :
    leadOf? start name = none := by
  unfold leadOf?
  rw [if_neg hname.ne_here, if_neg hname.ne_above, if_neg (Nat.not_lt.mpr hname.length_le)]

theorem eq_of_stepTo {e : Option Entry} {l' : Location} (h : stepTo l e = .leads l') : l' = l := by
  rcases e with _ | ⟨_ | _ | _ | _ | _⟩
  all_goals cases h
  all_goals rfl

theorem stepTo_eq_misses {e : Option Entry} (h : stepTo l e = .misses) : e = none := by
  rcases e with _ | ⟨_ | _ | _ | _ | _⟩
  case none => rfl
  all_goals cases h

theorem stepTo_eq_meets {e : Option Entry} {target : Bytes} (h : stepTo l e = .meets target) :
    e = some (.link target) := by
  rcases e with _ | ⟨_ | _ | _ | _ | _⟩
  case some.link => cases h; rfl
  all_goals cases h

theorem step_of_directory (hdir : t.get? start = some .directory) (name : FileName) :
    t.step start name =
      match leadOf? start name with
      | some (.ok l) => .leads l
      | some (.error fault) => .fails fault
      | none => stepTo (start ++ [name]) (t.get? (start ++ [name])) := by
  unfold step
  rw [hdir]

theorem directory_of_step (h : ∀ fault, t.step start name ≠ .fails fault) :
    t.get? start = some .directory := by
  unfold step at h
  generalize t.get? start = e at h ⊢
  rcases e with _ | ⟨_ | _ | _ | _ | _⟩
  case some.directory => rfl
  all_goals exact absurd rfl (h _)

theorem step_eq_stepTo (hfails : ∀ fault, t.step start name ≠ .fails fault)
    (hleads : ∀ l, t.step start name ≠ .leads l) :
    leadOf? start name = none ∧
      t.step start name = stepTo (start ++ [name]) (t.get? (start ++ [name])) := by
  have hstep := step_of_directory (directory_of_step hfails) name
  rw [hstep] at hfails hleads ⊢
  generalize leadOf? start name = lead at hfails hleads ⊢
  rcases lead with _ | (fault | l)
  · exact ⟨rfl, rfl⟩
  · exact absurd rfl (hfails fault)
  · exact absurd rfl (hleads l)

theorem get?_of_misses (h : t.step start name = .misses) : t.get? (start ++ [name]) = none := by
  obtain ⟨-, hentry⟩ := step_eq_stepTo (t := t) (by rw [h]; nofun) (by rw [h]; nofun)
  exact stepTo_eq_misses (hentry.symm.trans h)

theorem get?_of_meets {target : Bytes} (h : t.step start name = .meets target) :
    t.get? (start ++ [name]) = some (.link target) := by
  obtain ⟨-, hentry⟩ := step_eq_stepTo (t := t) (by rw [h]; nofun) (by rw [h]; nofun)
  exact stepTo_eq_meets (hentry.symm.trans h)

/-! ## Walking on -/

/-- A walk goes on from where its front ends: if that is nowhere or does not exist, there is no
going on, and else the rest of the walk starts there. -/
def GoesOn (t : FileTree) (rest : Location → Except OsFault Location → Prop)
    (front whole : Except OsFault Location) : Prop :=
  ((∃ fault, whole = .error fault) ∧ ∀ l, front = .ok l → t.get? l = none) ∨
    ∃ l, front = .ok l ∧ rest l whole

/-- Walks along the names go on as walks from links do. -/
theorem goesOn_walkNames {rest : Location → Except OsFault Location → Prop}
    {onLink onLink' : Location → List FileName → Except OsFault Location} (hmore : more ≠ [])
    (hlink : ∀ l names, GoesOn t rest (onLink l names) (onLink' l (names ++ more)))
    (hrest : ∀ l, rest l (t.walkNames follow onLink' l more)) (start : Location)
    (names : List FileName) :
    GoesOn t rest (t.walkNames true onLink start names)
      (t.walkNames follow onLink' start (names ++ more)) := by
  have hfail (fault fault' : OsFault) : GoesOn t rest (.error fault) (.error fault') :=
    Or.inl ⟨⟨fault', rfl⟩, nofun⟩
  have hneverLast (names : List FileName) : names ++ more ≠ [] :=
    List.append_ne_nil_of_right_ne_nil _ hmore
  induction names generalizing start with
  | nil => exact Or.inr ⟨start, rfl, hrest start⟩
  | cons name names ih =>
    rw [List.cons_append, walkNames_cons, walkNames_cons]
    cases hstep : t.step start name with
    | fails fault => exact hfail _ _
    | misses =>
      refine Or.inl ⟨⟨_, if_neg (hneverLast names)⟩, fun l hl => ?_⟩
      dsimp only at hl
      split at hl
      · cases hl
        exact get?_of_misses hstep
      · cases hl
    | meets target =>
      dsimp only
      rw [if_neg (show ¬ (names = [] ∧ true = false) from fun h => Bool.noConfusion h.2),
        if_neg (show ¬ (names ++ more = [] ∧ follow = false) from fun h => hneverLast names h.1),
        ← List.append_assoc]
      exact hlink _ _
    | leads l => exact ih l

/-- **A walk goes on from where its front ends**, with the links that are left. -/
theorem goesOn_walk (hmore : more ≠ []) (links : Nat) (start : Location) (names : List FileName) :
    GoesOn t (fun l whole => ∃ links, whole = t.walk follow links l more)
      (t.walk true links start names) (t.walk follow links start (names ++ more)) := by
  induction links generalizing start names with
  | zero =>
    refine goesOn_walkNames hmore (fun l names => ?_) (fun l => ⟨0, rfl⟩) start names
    exact Or.inl ⟨⟨_, rfl⟩, nofun⟩
  | succ links ih =>
    exact goesOn_walkNames hmore (fun l names => ih l names) (fun l => ⟨links + 1, rfl⟩) start names

/-! ## Entries of a directory -/

theorem find_eq_ok_iff {route : Route} {e : Entry} :
    t.find follow route = .ok (l, e) ↔ t.locate follow route = .ok l ∧ t.get? l = some e := by
  unfold find
  cases t.locate follow route with
  | error fault => exact iff_of_false nofun (fun h => nomatch h.1)
  | ok l' =>
    dsimp only [bind, Except.bind]
    constructor
    · intro h
      cases he : t.get? l' with
      | none => rw [he] at h; cases h
      | some e' =>
        rw [he] at h
        cases h
        exact ⟨rfl, he⟩
    · rintro ⟨hl, he⟩
      cases hl
      rw [he]
      rfl

/-- The entry may be missing, but no link that is followed. -/
theorem walk_entry (hname : Ordinary name) (hdir : t.get? dir = some .directory)
    (hentry : follow = true → ∀ target, t.get? (dir ++ [name]) ≠ some (.link target)) :
    t.walk follow links dir [name] = .ok (dir ++ [name]) := by
  have hstep : t.step dir name = stepTo (dir ++ [name]) (t.get? (dir ++ [name])) := by
    rw [step_of_directory hdir, leadOf?_of_ordinary hname]
  have hwalk (onLink : Location → List FileName → Except OsFault Location) :
      t.walkNames follow onLink dir [name] = .ok (dir ++ [name]) := by
    rw [walkNames_cons, hstep]
    rcases he : t.get? (dir ++ [name]) with _ | ⟨_ | _ | target | _ | _⟩
    case some.link =>
      exact if_pos ⟨rfl, (Bool.not_eq_true _).mp fun hfollow => hentry hfollow target he⟩
    all_goals rfl
  cases links with
  | zero => exact hwalk _
  | succ links => exact hwalk _

theorem walk_long (hlong : maxNameLength < name.length) (hdir : t.get? dir = some .directory) :
    t.walk follow links dir [name] = .error .nameTooLong := by
  have hhere : name ≠ here := by
    rintro rfl
    exact absurd hlong (by decide)
  have habove : name ≠ above := by
    rintro rfl
    exact absurd hlong (by decide)
  have hstep : t.step dir name = .fails .nameTooLong := by
    rw [step_of_directory hdir, leadOf?, if_neg hhere, if_neg habove, if_pos hlong]
  cases links with
  | zero => exact (walkNames_cons ..).trans (by rw [hstep])
  | succ links => exact (walkNames_cons ..).trans (by rw [hstep])

theorem eq_of_walk_here (h : t.walk follow links l [here] = .ok dir) : l = dir := by
  have hwalk {onLink : Location → List FileName → Except OsFault Location}
      (h : t.walkNames follow onLink l [here] = .ok dir) : l = dir := by
    rw [walkNames_cons] at h
    unfold step at h
    generalize t.get? l = e at h
    rcases e with _ | ⟨_ | _ | _ | _ | _⟩
    all_goals cases h
    all_goals rfl
  cases links with
  | zero => exact hwalk h
  | succ links => exact hwalk h

/-- Where the walk along a path starts. -/
def origin (t : FileTree) (route : Route) : Location :=
  if route.absolute then [] else t.workingDirectory

/-- A path to a directory leads there also without the slash at its end. -/
theorem walk_of_find {route : Route} (h : t.find true route = .ok (dir, .directory)) :
    t.walk true maxLinks (t.origin route) route.names = .ok dir := by
  obtain ⟨hlocate, -⟩ := find_eq_ok_iff.mp h
  unfold locate at hlocate
  by_cases hempty : route.isEmpty = true
  · rw [if_pos hempty] at hlocate
    cases hlocate
  rw [if_neg hempty] at hlocate
  change t.walk true maxLinks (t.origin route) route.steps = .ok dir at hlocate
  unfold steps at hlocate
  by_cases hslash : route.toDirectory = true
  · rw [if_pos hslash] at hlocate
    rcases goesOn_walk (List.cons_ne_nil here []) maxLinks (t.origin route) route.names with
      ⟨⟨fault, hwhole⟩, -⟩ | ⟨l, hfront, links, hwhole⟩
    · rw [hwhole] at hlocate
      cases hlocate
    · rw [hwhole] at hlocate
      rw [hfront, eq_of_walk_here hlocate]
  · rwa [if_neg hslash] at hlocate

/-- The path of an entry is walked from its directory, if the path of the directory leads there. -/
theorem exists_locate_joinPath {root name : String} (hslash : slash ∉ utf8 name)
    (hnil : utf8 name ≠ []) (hdir : t.find true (ofText root) = .ok (dir, .directory)) :
    ∃ links, t.locate follow (ofText (joinPath root name)) =
      t.walk follow links dir [utf8 name] := by
  have hroot : root ≠ "" := by
    rintro rfl
    cases hdir
  have hget := (find_eq_ok_iff.mp hdir).2
  rw [ofText_joinPath hroot hslash hnil]
  unfold locate
  rw [if_neg]
  · show ∃ links, t.walk follow maxLinks (t.origin (ofText root))
      ((ofText root).names ++ [utf8 name]) = _
    rcases goesOn_walk (List.cons_ne_nil (utf8 name) []) maxLinks (t.origin (ofText root))
      (ofText root).names with ⟨-, hmissing⟩ | ⟨l, hfront, links, hwhole⟩
    · rw [hmissing dir (walk_of_find hdir)] at hget
      cases hget
    · rw [← Except.ok.inj ((walk_of_find hdir).symm.trans hfront)] at hwhole
      exact ⟨links, hwhole⟩
  · unfold isEmpty
    simp

/-- **The path of an entry leads to it**, if the path of its directory does. -/
theorem locate_joinPath {root name : String} (hname : Ordinary (utf8 name))
    (hdir : t.find true (ofText root) = .ok (dir, .directory))
    (hentry : follow = true → ∀ target, t.get? (dir ++ [utf8 name]) ≠ some (.link target)) :
    t.locate follow (ofText (joinPath root name)) = .ok (dir ++ [utf8 name]) := by
  obtain ⟨links, hwalk⟩ := exists_locate_joinPath hname.slash_notMem hname.ne_nil hdir
  rw [hwalk]
  exact walk_entry hname (find_eq_ok_iff.mp hdir).2 hentry

theorem locate_joinPath_of_long {root name : String} (hslash : slash ∉ utf8 name)
    (hlong : maxNameLength < (utf8 name).length)
    (hdir : t.find true (ofText root) = .ok (dir, .directory)) :
    t.locate follow (ofText (joinPath root name)) = .error .nameTooLong := by
  have hnil : utf8 name ≠ [] := List.ne_nil_of_length_pos (by omega)
  obtain ⟨links, hwalk⟩ := exists_locate_joinPath hslash hnil hdir
  rw [hwalk]
  exact walk_long hlong (find_eq_ok_iff.mp hdir).2

/-! ## Ways that are kept -/

/-- A tree has the directories and links of another one, whatever its files are. -/
structure Keeps (t t' : FileTree) : Prop where
  workingDirectory_eq : t'.workingDirectory = t.workingDirectory
  directory : ∀ l, t.get? l = some .directory → t'.get? l = some .directory
  link : ∀ l target, t.get? l = some (.link target) → t'.get? l = some (.link target)

theorem Keeps.trans {t'' : FileTree} (h : t.Keeps t') (h' : t'.Keeps t'') : t.Keeps t'' where
  workingDirectory_eq := h'.workingDirectory_eq.trans h.workingDirectory_eq
  directory l hl := h'.directory l (h.directory l hl)
  link l target hl := h'.link l target (h.link l target hl)

theorem Keeps.step_leads (h : t.Keeps t') (hl : t.get? l = some .directory)
    (hstep : t.step start name = .leads l) : t'.step start name = .leads l := by
  have hstart := directory_of_step (by rw [hstep]; nofun)
  rw [step_of_directory hstart] at hstep
  rw [step_of_directory (h.directory _ hstart)]
  rcases hlead : leadOf? start name with _ | (_ | _)
  all_goals rw [hlead] at hstep
  · cases eq_of_stepTo hstep
    rw [h.directory _ hl]
    rfl
  · exact hstep
  · exact hstep

theorem Keeps.step_meets (h : t.Keeps t') {target : Bytes}
    (hstep : t.step start name = .meets target) : t'.step start name = .meets target := by
  have hstart := directory_of_step (by rw [hstep]; nofun)
  obtain ⟨hlead, -⟩ := step_eq_stepTo (t := t) (by rw [hstep]; nofun) (by rw [hstep]; nofun)
  rw [step_of_directory (h.directory _ hstart), hlead, h.link _ target (get?_of_meets hstep)]
  rfl

theorem directory_of_walkNames {onLink : Location → List FileName → Except OsFault Location}
    (hdir : t.get? dir = some .directory) (hwalk : t.walkNames follow onLink l names = .ok dir) :
    t.get? l = some .directory := by
  cases names with
  | nil =>
    cases hwalk
    exact hdir
  | cons name names =>
    have hsteps (fault : OsFault) : t.step l name ≠ .fails fault := by
      intro hstep
      rw [walkNames_cons, hstep] at hwalk
      cases hwalk
    exact directory_of_step hsteps

/-- Walks along the names stay the same if walks from links do. -/
theorem Keeps.walkNames (h : t.Keeps t')
    {onLink onLink' : Location → List FileName → Except OsFault Location}
    (hlink : ∀ l names, onLink l names = .ok dir → onLink' l names = .ok dir)
    (hdir : t.get? dir = some .directory) (hwalk : t.walkNames true onLink start names = .ok dir) :
    t'.walkNames true onLink' start names = .ok dir := by
  induction names generalizing start with
  | nil => exact hwalk
  | cons name names ih =>
    rw [walkNames_cons] at hwalk ⊢
    cases hstep : t.step start name with
    | fails fault => rw [hstep] at hwalk; cases hwalk
    | misses =>
      rw [hstep] at hwalk
      dsimp only at hwalk
      split at hwalk
      · cases hwalk
        rw [get?_of_misses hstep] at hdir
        cases hdir
      · cases hwalk
    | meets target =>
      rw [hstep] at hwalk
      rw [h.step_meets hstep]
      dsimp only at hwalk ⊢
      rw [if_neg (show ¬ (names = [] ∧ true = false) from fun h => Bool.noConfusion h.2)]
        at hwalk ⊢
      exact hlink _ _ hwalk
    | leads l =>
      rw [hstep] at hwalk
      rw [h.step_leads (directory_of_walkNames hdir hwalk) hstep]
      exact ih hwalk

theorem Keeps.walk (h : t.Keeps t') (hdir : t.get? dir = some .directory)
    (hwalk : t.walk true links start names = .ok dir) :
    t'.walk true links start names = .ok dir := by
  induction links generalizing start names with
  | zero =>
    change t.walkNames true (fun _ _ => .error .linkLoop) start names = .ok dir at hwalk
    exact h.walkNames (fun _ _ hlink => by cases hlink) hdir hwalk
  | succ links ih => exact h.walkNames (fun _ _ hlink => ih hlink) hdir hwalk

/-- **A path goes on leading to a directory** as long as directories and links are kept. -/
theorem Keeps.find (h : t.Keeps t') {route : Route}
    (hdir : t.find true route = .ok (dir, .directory)) :
    t'.find true route = .ok (dir, .directory) := by
  obtain ⟨hlocate, hget⟩ := find_eq_ok_iff.mp hdir
  refine find_eq_ok_iff.mpr ⟨?_, h.directory dir hget⟩
  unfold locate at hlocate ⊢
  rw [h.workingDirectory_eq]
  split at hlocate
  · cases hlocate
  · rename_i hempty
    rw [if_neg hempty]
    exact h.walk hget hlocate

end FileTree

end GuestVault
