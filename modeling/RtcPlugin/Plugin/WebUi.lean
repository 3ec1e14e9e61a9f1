import RtcPlugin.Text.PosixPath

/-! The route that serves the user interface.

A request is resolved below the ui directory, and the path is served if its text
begins with the directory's. That is not being below it: a name that begins with
`ui` next to the directory passes too (`ui_contained`). -/
namespace RtcPlugin.WebUi
open RtcPlugin.Path

inductive Entry where
  | file
  | directory
  deriving DecidableEq, Repr

/-- What is at the end of some names from the root, if anything is. -/
abbrev FileSystem := List Name → Option Entry

/-- What a path leads to. Only a directory may end in a slash; no name holds a zero character. -/
def stat (fs : FileSystem) (path : List Char) : Option Entry :=
  if Char.ofNat 0 ∈ path then none
  else match fs ((split '/' path).filter (· ≠ [])) with
    | some .file => if path.getLast? = some '/' then none else some .file
    | found => found

def existsSync (fs : FileSystem) (path : List Char) : Bool := (stat fs path).isSome

def isFile (fs : FileSystem) (path : List Char) : Bool := stat fs path = some .file

/-- The part of the last name from its last dot on, unless that begins the name. -/
def extname (path : List Char) : List Char :=
  let name := (path.reverse.takeWhile (· ≠ '/')).reverse
  match (split '.' name).reverse with
  | ext :: before :: rest => if before = [] ∧ rest = [] then [] else '.' :: ext
  | _ => []

def MIME_TYPES : List (String × String) :=
  [(".html", "text/html; charset=utf-8"), (".css", "text/css; charset=utf-8"), (".js", "text/javascript; charset=utf-8"),
    (".ts", "text/javascript; charset=utf-8"), (".json", "application/json"), (".svg", "image/svg+xml"),
    (".png", "image/png"), (".ico", "image/x-icon")]

inductive Response where
  /-- 403 -/
  | forbidden
  /-- 404 -/
  | notFound
  /-- 200, and the file's content. -/
  | stream (path : List Char) (contentType : String)
  deriving DecidableEq, Repr

/-- `.replace(/\/index\.[tj]s$/, "")` -/
def stripIndex (file : List Char) : List Char :=
  if "/index.ts".toList <:+ file ∨ "/index.js".toList <:+ file then file.take (file.length - 9) else file

/-- `.replace(/^\/plugins\/webrtc\/?/, "/")` -/
def stripPrefix (url : List Char) : List Char :=
  let route := "/plugins/webrtc".toList
  if route <+: url then
    match url.drop route.length with
    | '/' :: rest => '/' :: rest
    | rest => '/' :: rest
  else url

def ui : Name := ['u', 'i']

def indexHtml : Name := "index.html".toList

section
variable (moduleFile : List Char)

def baseDir : List Char := join [stripIndex moduleFile, ui]

/-- The path that a request is for. -/
def filePath (url : Option (List Char)) : List Char :=
  let urlPath := stripPrefix (url.getD ['/'])
  let cleanPath := urlPath.takeWhile (· ≠ '?')
  if cleanPath = ['/'] ∨ cleanPath = [] then join [baseDir moduleFile, indexHtml]
  else join [baseDir moduleFile, cleanPath]

def handler (fs : FileSystem) (url : Option (List Char)) : Response :=
  let path := filePath moduleFile url
  if ¬ baseDir moduleFile <+: path then .forbidden
  else if !existsSync fs path || !isFile fs path then
    let indexPath := join [baseDir moduleFile, indexHtml]
    if existsSync fs indexPath then .stream indexPath "text/html; charset=utf-8" else .notFound
  else
    let ext := extname path
    .stream path ((MIME_TYPES.lookup (String.ofList ext)).getD "application/octet-stream")

end

/-! ### What is served -/

/-- The directory of the plugin's module, by its names from the root. -/
structure PluginDir where
  names : List Name
  ne : names ≠ []
  proper : ∀ n ∈ names, Proper n

/-- The module's file, in either language. -/
def PluginDir.moduleFile (dir : PluginDir) (compiled : Bool) : List Char :=
  absolute dir.names ++ if compiled then "/index.js".toList else "/index.ts".toList

/-- The names of the ui directory. -/
def PluginDir.ui (dir : PluginDir) : List Name := dir.names ++ [WebUi.ui]

/-- A path strictly below the ui directory. -/
def Below (dir : PluginDir) (path : List Char) : Prop := ∃ rest, rest ≠ [] ∧ path = absolute dir.ui ++ '/' :: rest

/-- The request is for a path beside the ui directory whose text begins with the directory's: a name
that begins with `ui` is in its place, or nothing follows. -/
def BesideUi (dir : PluginDir) (compiled : Bool) (url : Option (List Char)) : Prop :=
  ∃ name rest tail, filePath (dir.moduleFile compiled) url = absolute (dir.names ++ name :: rest) ++ tail ∧
    (tail = [] ∨ tail = ['/']) ∧ Proper name ∧ ui <+: name ∧ (name ≠ ui ∨ rest = [])

/-- Only files below the ui directory are served, and a request for anything else gets 403 or
the index page. -/
structure Contained (dir : PluginDir) (compiled : Bool) (fs : FileSystem) (url : Option (List Char)) : Prop where
  served : ∀ path contentType, handler (dir.moduleFile compiled) fs url = .stream path contentType → Below dir path
  elsewhere : ¬ Below dir (filePath (dir.moduleFile compiled) url) →
    handler (dir.moduleFile compiled) fs url = .forbidden ∨
      handler (dir.moduleFile compiled) fs url = .stream (absolute (dir.ui ++ [indexHtml])) "text/html; charset=utf-8"

theorem proper_ui : Proper ui := ⟨by decide, by decide, by decide, by decide⟩

theorem proper_indexHtml : Proper indexHtml := ⟨by decide, by decide, by decide, by decide⟩

theorem PluginDir.proper_ui (dir : PluginDir) : ∀ n ∈ dir.ui, Proper n := by
  intro n hn
  obtain hn | hn := List.mem_append.mp hn
  · exact dir.proper n hn
  · rw [List.mem_singleton.mp hn]
    exact WebUi.proper_ui

theorem PluginDir.ui_ne (dir : PluginDir) : dir.ui ≠ [] := by simp [PluginDir.ui]

/-- A proper name is resolved to itself. -/
theorem resolve_name {dir : List Name} {name : Name} (h : Proper name) : resolve dir name = dir ++ [name] := by
  unfold resolve
  rw [split_of_not_mem h.noSlash, List.foldl_cons, List.foldl_nil, push, if_neg (not_or.mpr ⟨h.ne, h.notDot⟩),
    if_neg h.notDots]

theorem trailing_name {name : Name} (h : Proper name) : trailing name = [] := by
  refine if_neg fun hlast => h.noSlash (List.mem_of_getLast? hlast)

theorem join_name {dir : List Name} (h : ∀ n ∈ dir, Proper n) (hdir : dir ≠ []) {name : Name} (hname : Proper name) :
    join [absolute dir, name] = absolute (dir ++ [name]) := by
  rw [join_absolute h hdir hname.ne, resolve_name hname, if_neg (by simp), trailing_name hname, List.append_nil]

section
variable (dir : PluginDir) (compiled : Bool)

theorem stripIndex_moduleFile : stripIndex (dir.moduleFile compiled) = absolute dir.names := by
  have htake : ∀ suffix : List Char, suffix.length = 9 →
      (absolute dir.names ++ suffix).take ((absolute dir.names ++ suffix).length - 9) = absolute dir.names := by
    intro suffix hlen
    rw [List.length_append, hlen, Nat.add_sub_cancel, List.take_left]
  unfold stripIndex PluginDir.moduleFile
  cases compiled with
  | true => rw [if_pos (.inr (List.suffix_append ..))]; exact htake _ rfl
  | false => rw [if_pos (.inl (List.suffix_append ..))]; exact htake _ rfl

theorem baseDir_eq : baseDir (dir.moduleFile compiled) = absolute dir.ui := by
  rw [baseDir, stripIndex_moduleFile, join_name dir.proper dir.ne proper_ui]
  rfl

theorem indexPath_eq : join [baseDir (dir.moduleFile compiled), indexHtml] = absolute (dir.ui ++ [indexHtml]) := by
  rw [baseDir_eq, join_name dir.proper_ui dir.ui_ne proper_indexHtml]

/-- Every request is for a path of proper names. -/
theorem filePath_cases (url : Option (List Char)) : ∃ names tail, (∀ n ∈ names, Proper n) ∧ (tail = [] ∨ tail = ['/']) ∧
    filePath (dir.moduleFile compiled) url = absolute names ++ tail := by
  unfold filePath
  dsimp only
  split
  · refine ⟨dir.ui ++ [indexHtml], [], ?_, .inl rfl, by rw [indexPath_eq, List.append_nil]⟩
    intro n hn
    obtain hn | hn := List.mem_append.mp hn
    · exact dir.proper_ui n hn
    · rw [List.mem_singleton.mp hn]
      exact proper_indexHtml
  · next hclean =>
    rw [baseDir_eq, join_absolute dir.proper_ui dir.ui_ne fun h => hclean (.inr h)]
    split
    · exact ⟨[], ['/'], List.forall_mem_nil _, .inr rfl, rfl⟩
    · refine ⟨_, _, resolve_proper dir.proper_ui _, ?_, rfl⟩
      unfold trailing
      split
      · exact .inr rfl
      · exact .inl rfl

theorem below_index : Below dir (absolute (dir.ui ++ [indexHtml])) := by
  refine ⟨indexHtml, proper_indexHtml.ne, ?_⟩
  rw [absolute_append, absolute_cons]
  simp [absolute]

theorem absolute_ui (more : List Char) : absolute dir.ui ++ more = absolute dir.names ++ '/' :: (ui ++ more) := by
  rw [PluginDir.ui, absolute_append, absolute_cons, show absolute [] = [] from rfl, List.append_nil, List.append_assoc]
  rfl

/-- A path beside the directory is not below it. -/
theorem BesideUi.not_below {url : Option (List Char)} (h : BesideUi dir compiled url) :
    ¬ Below dir (filePath (dir.moduleFile compiled) url) := by
  obtain ⟨name, rest, tail, hpath, htail, hname, _, hbeside⟩ := h
  intro hbelow
  obtain ⟨more, hmore, heq⟩ := hbelow
  rw [hpath, absolute_ui, absolute_append, List.append_assoc, absolute_cons, List.cons_append, List.append_assoc] at heq
  have hcut := (List.cons.inj (List.append_cancel_left heq)).2
  have hhead : tail = [] ∨ tail.head? = some '/' := htail.imp_right fun hslash => by rw [hslash]; rfl
  obtain ⟨rfl, hrest⟩ := name_eq proper_ui.noSlash hname.noSlash (head_absolute rest hhead)
    (by rw [hcut])
  obtain hne | rfl := hbeside
  · exact hne rfl
  · -- at most a slash follows
    have hlast : absolute [] ++ tail = '/' :: more := List.append_cancel_left hcut
    obtain rfl | rfl := htail
    · cases hlast
    · exact hmore (List.cons.inj hlast).2.symm

theorem BesideUi.begins {url : Option (List Char)} (h : BesideUi dir compiled url) :
    absolute dir.ui <+: filePath (dir.moduleFile compiled) url := by
  obtain ⟨name, rest, tail, hpath, _, _, ⟨more, rfl⟩, _⟩ := h
  refine ⟨more ++ (absolute rest ++ tail), ?_⟩
  rw [hpath, absolute_ui, absolute_append, absolute_cons]
  simp only [List.append_assoc, List.cons_append]

/-- What begins like the directory is below it or beside it. -/
theorem below_or_beside {url : Option (List Char)} (h : absolute dir.ui <+: filePath (dir.moduleFile compiled) url) :
    Below dir (filePath (dir.moduleFile compiled) url) ∨ BesideUi dir compiled url := by
  obtain ⟨names, tail, hproper, htail, hpath⟩ := filePath_cases dir compiled url
  rw [hpath] at h
  obtain ⟨name, rest, rfl, hname⟩ := absolute_prefix dir.proper proper_ui.noSlash proper_ui.ne
    (fun n hn => (hproper n hn).noSlash) htail h
  have hproper' := hproper name (List.mem_append_right _ (List.mem_cons_self ..))
  by_cases hbeside : name ≠ ui ∨ rest = []
  · exact .inr ⟨name, rest, tail, hpath, htail, hproper', hname, hbeside⟩
  · rw [not_or, not_not] at hbeside
    obtain ⟨rfl, hrest⟩ := hbeside
    obtain ⟨n, rest, rfl⟩ := List.exists_cons_of_ne_nil hrest
    have hn := hproper n (List.mem_append_right _ (List.mem_cons_of_mem _ (List.mem_cons_self ..)))
    refine .inl ⟨n ++ absolute rest ++ tail, by simp [hn.ne], ?_⟩
    rw [hpath, absolute_ui, absolute_append, absolute_cons, absolute_cons]
    simp only [List.append_assoc, List.cons_append]

theorem handler_file {fs : FileSystem} {url : Option (List Char)}
    (hbegins : absolute dir.ui <+: filePath (dir.moduleFile compiled) url)
    (hfile : isFile fs (filePath (dir.moduleFile compiled) url) = true) :
    ∃ contentType, handler (dir.moduleFile compiled) fs url = .stream (filePath (dir.moduleFile compiled) url) contentType := by
  have hexists : existsSync fs (filePath (dir.moduleFile compiled) url) = true := by
    unfold existsSync
    rw [show stat fs (filePath (dir.moduleFile compiled) url) = some .file by simpa [isFile] using hfile]
    rfl
  unfold handler
  dsimp only
  rw [baseDir_eq, if_neg (not_not.mpr hbegins), hexists, hfile]
  exact ⟨_, rfl⟩

theorem handler_fallback {fs : FileSystem} {url : Option (List Char)}
    (hbegins : absolute dir.ui <+: filePath (dir.moduleFile compiled) url)
    (hfile : isFile fs (filePath (dir.moduleFile compiled) url) = false) :
    handler (dir.moduleFile compiled) fs url =
      if existsSync fs (absolute (dir.ui ++ [indexHtml])) then
        .stream (absolute (dir.ui ++ [indexHtml])) "text/html; charset=utf-8"
      else .notFound := by
  unfold handler
  dsimp only
  rw [indexPath_eq, baseDir_eq, if_neg (not_not.mpr hbegins), hfile, Bool.not_false, Bool.or_true, if_pos rfl]

theorem handler_forbidden {fs : FileSystem} {url : Option (List Char)}
    (hbegins : ¬ absolute dir.ui <+: filePath (dir.moduleFile compiled) url) :
    handler (dir.moduleFile compiled) fs url = .forbidden := by
  unfold handler
  dsimp only
  rw [baseDir_eq, if_pos hbegins]

theorem contained_file {fs : FileSystem} {url : Option (List Char)}
    (hbegins : absolute dir.ui <+: filePath (dir.moduleFile compiled) url)
    (hfile : isFile fs (filePath (dir.moduleFile compiled) url) = true)
    (hbelow : Below dir (filePath (dir.moduleFile compiled) url)) : Contained dir compiled fs url := by
  obtain ⟨contentType, hstream⟩ := handler_file dir compiled hbegins hfile
  refine ⟨fun path contentType' heq => ?_, fun hnot => absurd hbelow hnot⟩
  cases hstream.symm.trans heq
  exact hbelow

/-- The index page is below the directory; where there is none, nothing may be served in its place. -/
theorem contained_fallback {fs : FileSystem} {url : Option (List Char)}
    (hbegins : absolute dir.ui <+: filePath (dir.moduleFile compiled) url)
    (hfile : isFile fs (filePath (dir.moduleFile compiled) url) = false)
    (hindex : BesideUi dir compiled url → existsSync fs (absolute (dir.ui ++ [indexHtml])) = true) :
    Contained dir compiled fs url := by
  have hfallback := handler_fallback dir compiled hbegins hfile
  refine ⟨fun path contentType heq => ?_, fun hnot => .inr ?_⟩
  · rw [hfallback] at heq
    split at heq
    · cases heq
      exact below_index dir
    · cases heq
  · have hbeside := (below_or_beside dir compiled hbegins).resolve_left hnot
    rw [hfallback, if_pos (hindex hbeside)]

theorem contained_forbidden {fs : FileSystem} {url : Option (List Char)}
    (hbegins : ¬ absolute dir.ui <+: filePath (dir.moduleFile compiled) url) : Contained dir compiled fs url := by
  have hforbidden : handler (dir.moduleFile compiled) fs url = .forbidden := handler_forbidden dir compiled hbegins
  refine ⟨fun path contentType heq => ?_, fun _ => .inl hforbidden⟩
  cases hforbidden.symm.trans heq

/-- **What is served is below the ui directory**, unless the request is for a path beside it and
that is a file, or there is no index page to serve instead. -/
theorem ui_contained (fs : FileSystem) (url : Option (List Char)) : Contained dir compiled fs url ↔
    ¬ (BesideUi dir compiled url ∧ (isFile fs (filePath (dir.moduleFile compiled) url) = true ∨
      existsSync fs (absolute (dir.ui ++ [indexHtml])) = false)) := by
  constructor
  · intro h hbad
    obtain ⟨hbeside, hbad⟩ := hbad
    have hbegins := hbeside.begins
    by_cases hfile : isFile fs (filePath (dir.moduleFile compiled) url) = true
    · obtain ⟨contentType, hstream⟩ := handler_file dir compiled hbegins hfile
      exact hbeside.not_below dir compiled (h.served _ _ hstream)
    · have hindex := hbad.resolve_left hfile
      have hnone := handler_fallback dir compiled hbegins (Bool.eq_false_iff.mpr hfile)
      rw [hindex] at hnone
      obtain hresponse | hresponse := h.elsewhere (hbeside.not_below dir compiled)
      · cases hnone.symm.trans hresponse
      · cases hnone.symm.trans hresponse
  · intro hgood
    by_cases hbegins : absolute dir.ui <+: filePath (dir.moduleFile compiled) url
    · by_cases hfile : isFile fs (filePath (dir.moduleFile compiled) url) = true
      · refine contained_file dir compiled hbegins hfile ?_
        exact (below_or_beside dir compiled hbegins).resolve_right fun hbeside => hgood ⟨hbeside, .inl hfile⟩
      · refine contained_fallback dir compiled hbegins (Bool.eq_false_iff.mpr hfile) fun hbeside => ?_
        exact Bool.of_not_eq_false fun hnone => hgood ⟨hbeside, .inr hnone⟩
    · exact contained_forbidden dir compiled hbegins

end

/-- A plugin directory with its ui directory, and notes in a directory beside it. -/
def demoFiles : FileSystem := fun names =>
  if names = ["app".toList, "ui".toList, indexHtml] ∨ names = ["app".toList, "ui-old".toList, "notes.txt".toList] then
    some .file
  else if names ∈ [[], ["app".toList], ["app".toList, "ui".toList], ["app".toList, "ui-old".toList]] then
    some .directory
  else none

/-- A file in a directory that begins like `ui`. -/
theorem sibling_served : ¬ ∀ (dir : PluginDir) (compiled : Bool) (fs : FileSystem) (url : Option (List Char)),
    Contained dir compiled fs url := by
  intro h
  have hproper : ∀ n ∈ ["app".toList], Proper n := by
    intro n hn
    rw [List.mem_singleton.mp hn]
    exact ⟨by decide, by decide, by decide, by decide⟩
  let dir : PluginDir := ⟨["app".toList], by decide, hproper⟩
  have hpath : filePath "/app/index.ts".toList (some "/plugins/webrtc/../ui-old/notes.txt".toList) =
      "/app/ui-old/notes.txt".toList := by decide
  have hbeside : BesideUi dir false (some "/plugins/webrtc/../ui-old/notes.txt".toList) :=
    ⟨"ui-old".toList, ["notes.txt".toList], [], hpath, .inl rfl, ⟨by decide, by decide, by decide, by decide⟩, by decide,
      .inl (by decide)⟩
  have hfile : isFile demoFiles (filePath "/app/index.ts".toList
      (some "/plugins/webrtc/../ui-old/notes.txt".toList)) = true := by
    rw [hpath]
    decide
  obtain ⟨contentType, hstream⟩ := handler_file dir false hbeside.begins hfile
  exact hbeside.not_below _ _ ((h dir false demoFiles _).served _ _ hstream)

end RtcPlugin.WebUi
