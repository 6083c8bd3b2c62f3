import ClusterClient.Proofs.Url.Authority
import ClusterClient.Proofs.Url.Path

namespace ClusterClient.Url

def querySpecial : String := " \"#<>'"

def fragmentSpecial : String := " \"<>\x60"

theorem query_kept : escapeAlphabet.all (isClean querySpecial) = true := by decide

theorem fragment_kept : escapeAlphabet.all (isClean fragmentSpecial) = true := by decide

theorem portOf_le {chars : List Char} {number : Nat}
    (read : portOf chars = .ok (some number)) : number ≤ 65535 := by
  unfold portOf at read
  split at read
  · split at read
    · split at read
      · cases read
      · next small =>
        simp only [Except.ok.injEq] at read
        obtain ⟨-, same⟩ := Option.ite_none_left_eq_some.mp read
        cases same
        exact Nat.le_of_not_lt small
    · cases read
  · cases read

/-- User information, host and port as they are written. -/
def authority (url : Url) : String :=
  (if url.userinfo = "" then "" else url.userinfo ++ "@") ++ url.host.text ++ portText url.port

/-- The query or the fragment as it is written, after its mark. -/
def marked (mark : Char) : Option String → String
  | some part => String.singleton mark ++ part
  | none => ""

def fragmentText (url : Url) : String := marked '#' url.fragment

def schemeText (url : Url) : String := if url.secure then "https://" else "http://"

theorem text_eq (url : Url) :
    url.text = url.schemeText ++ url.authority ++ url.target ++ url.fragmentText := by
  rw [text, authority, schemeText]
  simp only [String.append_assoc]
  rfl

theorem pathText_eq (url : Url) : url.pathText = slashed url.path := rfl

theorem queryText_eq (url : Url) : url.queryText = marked '?' url.query := by
  rw [queryText]
  cases url.query <;> rfl

section

variable {mark : Char} {part : Option String}

theorem mem_marked {c : Char} (member : c ∈ (marked mark part).toList) :
    c = mark ∨ ∃ text ∈ part, c ∈ text.toList := by
  cases part with
  | none => cases member
  | some text =>
    rw [marked, String.toList_append, String.toList_singleton, List.mem_append,
      List.mem_singleton] at member
    exact member.imp_right fun own => ⟨text, rfl, own⟩

theorem head?_marked : ∀ c ∈ (marked mark part).toList.head?, c = mark := by
  cases part <;> simp [marked]

/-- A part without anything to escape reads back. -/
theorem read_marked {escaped : List Char → List Char}
    (stays : ∀ text ∈ part, escaped text.toList = text.toList) :
    (if (marked mark part).toList = [] then none
      else some (String.ofList (escaped (marked mark part).toList.tail))) = part := by
  cases part with
  | none => rfl
  | some text => simp [marked, stays text rfl]

end

theorem not_endsAuthority {c : Char} (plain : Host.isPlain c = true ∨ c = '@') :
    endsAuthority true c = false ∧ (c == '/' || c == '\\') = false := by
  have apart : c ≠ '/' ∧ c ≠ '?' ∧ c ≠ '#' ∧ c ≠ '\\' := by
    rcases plain with plain | rfl
    · have outside := (Host.isPlain_iff.mp plain).2
      simp [Host.delimiters] at outside
      simp [outside]
    · decide
  exact ⟨by simp [endsAuthority, apart], by simp [apart]⟩

theorem significant_of_visible {text : String} (visible : ∀ c ∈ text.toList, 0x20 < c.toNat) :
    significant text = text.toList := by
  have stays {chars : List Char} (inside : chars ⊆ text.toList) :
      chars.dropWhile (fun c => decide (c.toNat ≤ 0x20)) = chars := by
    cases chars with
    | nil => rfl
    | cons c rest =>
      have own := visible c (inside List.mem_cons_self)
      rw [List.dropWhile_cons_of_neg (by simpa using own)]
  unfold significant
  dsimp only
  rw [stays (List.Subset.refl _), stays (List.reverse_subset.mpr (List.Subset.refl _)),
    List.reverse_reverse, List.filter_eq_self]
  intro c member
  have own := visible c member
  have apart {mark : Char} (blank : mark.toNat ≤ 0x20) : c ≠ mark := by
    rintro rfl
    omega
  have tab : c ≠ '\t' := apart (by decide)
  have lineEnds : c ≠ '\n' ∧ c ≠ '\r' := ⟨apart (by decide), apart (by decide)⟩
  simp [tab, lineEnds]

theorem cutScheme?_web (secure : Bool) (rest : List Char) :
    cutScheme? ((if secure then "https://" else "http://").toList ++ rest)
      = some (if secure then "https" else "http", "//".toList ++ rest) := by
  cases secure <;> rfl

section

variable [HostNames]

/-- The parts of a URL as they come out of a text. -/
structure IsNormal (url : Url) : Prop where
  userinfo : IsUserinfo url.userinfo
  host : url.host.IsNormal
  port : ∀ port ∈ url.port, port ≤ 65535 ∧ port ≠ if url.secure then 443 else 80
  path : url.path ≠ [] ∧ ∀ segment ∈ url.path, IsSegment segment
  query : ∀ query ∈ url.query, escapeQuery query.toList = query.toList
  fragment : ∀ fragment ∈ url.fragment, escapeFragment fragment.toList = fragment.toList

variable {secure : Bool} {url : Url}

theorem IsNormal.isClean_query (normal : url.IsNormal) {query : String} (given : query ∈ url.query) :
    ∀ c ∈ query.toList, isClean querySpecial c = true :=
  (escape_eq_self_iff query_kept).mp (normal.query query given)

theorem IsNormal.isClean_fragment (normal : url.IsNormal) {fragment : String}
    (given : fragment ∈ url.fragment) : ∀ c ∈ fragment.toList, isClean fragmentSpecial c = true :=
  (escape_eq_self_iff fragment_kept).mp (normal.fragment fragment given)

theorem not_mem_pathText (normal : url.IsNormal) {mark : Char} (other : mark ≠ '/')
    (special : segmentSpecial.toList.contains mark = true) : mark ∉ url.pathText.toList := by
  intro member
  rw [pathText_eq, toList_slashed] at member
  obtain ⟨segment, inside, own⟩ := List.mem_flatMap.mp member
  rcases List.mem_cons.mp own with slash | own
  · exact other slash
  · rw [not_contains_of_isClean ((normal.path.2 segment inside).isClean mark own)] at special
    cases special

theorem not_mem_queryText (normal : url.IsNormal) : '#' ∉ url.queryText.toList := by
  intro member
  rw [queryText_eq] at member
  rcases mem_marked member with mark | ⟨query, given, own⟩
  · exact absurd mark (by decide)
  · exact absurd (normal.isClean_query given '#' own) (by decide)

/-- The fragment starts with the first mark of its kind, and so does the query before it. -/
theorem cut_fragment (normal : url.IsNormal) :
    (url.target.toList ++ url.fragmentText.toList).takeWhile (· != '#') = url.target.toList ∧
      (url.target.toList ++ url.fragmentText.toList).dropWhile (· != '#')
        = url.fragmentText.toList := by
  refine Text.takeWhile_dropWhile_ne (fun member => ?_) head?_marked
  rw [target, String.toList_append, List.mem_append] at member
  exact member.elim (not_mem_pathText normal (by decide) (by decide)) (not_mem_queryText normal)

theorem cut_query (normal : url.IsNormal) :
    url.target.toList.takeWhile (· != '?') = url.pathText.toList ∧
      url.target.toList.dropWhile (· != '?') = url.queryText.toList := by
  rw [target, String.toList_append, queryText_eq]
  exact Text.takeWhile_dropWhile_ne (not_mem_pathText normal (by decide) (by decide)) head?_marked

theorem authority_ne_nil (normal : url.IsNormal) : url.authority.toList ≠ [] := by
  have host : url.host.text.toList ≠ [] := by simpa using Host.text_ne_empty normal.host
  simp [authority, host]

theorem userinfo_read (normal : url.IsNormal) :
    userinfoText (if url.userinfo = "" then none else some url.userinfo.toList) = url.userinfo := by
  split
  · next none => exact none.symm
  · exact userinfoText_of_isUserinfo normal.userinfo

/-- Both schemes of the web are read alike. -/
theorem read_web {text : String} {rest : List Char}
    (cut : cutScheme? (significant text) = some (if secure then "https" else "http", rest)) :
    Url.read text = (ofWeb secure rest).map .web := by
  rw [Url.read, cut]
  cases secure <;> simp

variable [HostNames.IsLawful]

/-- Every URL that is read is in its normal form. -/
theorem ofWeb_isNormal {chars : List Char} (made : ofWeb secure chars = .ok url) : url.IsNormal := by
  unfold ofWeb at made
  dsimp only at made
  split at made
  · cases made
  · change Except.bind _ _ = _ at made
    generalize hostRead : Host.ofText _ = read at made
    cases read with
    | error => cases made
    | ok host =>
      generalize portRead : portOf _ = read at made
      cases read with
      | error => cases made
      | ok port =>
        cases made
        constructor
        case userinfo => exact isUserinfo_userinfoText _
        case host => exact Host.ofText_isNormal hostRead
        case port =>
          intro number member
          obtain ⟨other, same⟩ := Option.ite_none_left_eq_some.mp member
          subst same
          exact ⟨portOf_le portRead, fun own => other (congrArg some own)⟩
        case path => exact pathOf_normal _
        case query =>
          intro query member
          obtain ⟨-, same⟩ := Option.ite_none_left_eq_some.mp member
          cases same
          rw [String.toList_ofList]
          exact escape_escape query_kept _
        case fragment =>
          intro fragment member
          obtain ⟨-, same⟩ := Option.ite_none_left_eq_some.mp member
          cases same
          rw [String.toList_ofList]
          exact escape_escape fragment_kept _

/-- Every web URL that is read is in its normal form. -/
theorem read_isNormal {text : String} (read : Url.read text = .ok (.web url)) : url.IsNormal := by
  unfold Url.read at read
  split at read
  · cases read
  · have other {scheme : String} {check : Except UrlError Unit}
        (checked : (check.map fun _ => Reading.other scheme) = .ok (.web url)) : url.IsNormal := by
      cases check <;> cases checked
    split at read
    · next scheme rest _ _ =>
      cases made : ofWeb (scheme = "https") rest with
      | error =>
        rw [made] at read
        cases read
      | ok url =>
        rw [made] at read
        cases read
        exact ofWeb_isNormal made
    · split at read
      · exact other read
      · split at read
        · exact other read
        · exact other read

theorem isPlain_of_mem_authority (normal : url.IsNormal) {c : Char}
    (member : c ∈ url.authority.toList) : Host.isPlain c = true ∨ c = '@' := by
  simp only [authority, String.toList_append, List.mem_append] at member
  rcases member with (before | inHost) | inPort
  · split at before
    · cases before
    · rw [String.toList_append, List.mem_append] at before
      rcases before with own | mark
      · exact .inl (isPlain_of_mem_userinfo normal.userinfo own)
      · exact .inr (List.mem_singleton.mp mark)
  · exact .inl (Host.isPlain_of_mem_text normal.host inHost)
  · exact .inl (isPlain_of_mem_portText inPort)

/-- The authority reads back in its parts. -/
theorem cutUserinfo_authority (normal : url.IsNormal) :
    cutUserinfo url.authority.toList =
      (if url.userinfo = "" then none else some url.userinfo.toList,
        url.host.text.toList ++ (portText url.port).toList) := by
  have absent : '@' ∉ url.host.text.toList ++ (portText url.port).toList := by
    intro member
    have plain : Host.isPlain '@' = true := by
      rcases List.mem_append.mp member with inHost | inPort
      · exact Host.isPlain_of_mem_text normal.host inHost
      · exact isPlain_of_mem_portText inPort
    exact absurd plain (by decide)
  rw [authority]
  split
  · rw [String.empty_append, String.toList_append]
    exact cutUserinfo_of_not_mem absent
  · have chars : (url.userinfo ++ "@" ++ url.host.text ++ portText url.port).toList
        = url.userinfo.toList ++ '@' :: (url.host.text.toList ++ (portText url.port).toList) := by
      simp
    rw [chars, cutUserinfo_append absent]

/-- The path is what ends the authority. -/
theorem cut_authority (normal : url.IsNormal) (rest : List Char) :
    (url.authority.toList ++ (url.pathText.toList ++ rest)).takeWhile (!endsAuthority true ·)
        = url.authority.toList ∧
      (url.authority.toList ++ (url.pathText.toList ++ rest)).dropWhile (!endsAuthority true ·)
        = url.pathText.toList ++ rest := by
  refine Text.takeWhile_dropWhile_append (fun c member => ?_) fun c first => ?_
  · rw [(not_endsAuthority (isPlain_of_mem_authority normal member)).1]
    rfl
  · rw [pathText_eq, toList_slashed_of_ne_nil normal.path.1] at first
    cases first
    rfl

/-- The slashes before the authority do not count. -/
theorem drop_slashes (normal : url.IsNormal) (rest : List Char) :
    ("//".toList ++ (url.authority.toList ++ rest)).dropWhile (fun c => c == '/' || c == '\\')
      = url.authority.toList ++ rest := by
  have slashes : ∀ c ∈ "//".toList, (c == '/' || c == '\\') = true :=
    List.all_eq_true.mp (by decide)
  refine (Text.takeWhile_dropWhile_append slashes fun c first => ?_).2
  obtain ⟨d, after, split⟩ := List.exists_cons_of_ne_nil (authority_ne_nil normal)
  rw [split] at first
  cases first
  exact (not_endsAuthority (isPlain_of_mem_authority normal (split ▸ List.mem_cons_self))).2

/-- A normal URL reads back from what follows its scheme. -/
theorem ofWeb_text (normal : url.IsNormal) : ofWeb url.secure
    ("//".toList ++ (url.authority.toList ++ (url.target.toList ++ url.fragmentText.toList)))
      = .ok url := by
  have hostEnds : ∀ c ∈ (portText url.port).toList.head?, c = ':' := by
    unfold portText
    split <;> simp
  have nonempty : url.host.text.toList ≠ [] := by
    simpa using Host.text_ne_empty normal.host
  have host := Host.ofText_text normal.host
  have port := portOf_portText fun number given => (normal.port number given).1
  have otherPort : url.port ≠ some (if url.secure then 443 else 80) :=
    fun same => (normal.port _ same).2 rfl
  obtain ⟨authority, after⟩ := cut_authority normal (url.queryText.toList ++ url.fragmentText.toList)
  obtain ⟨beforeFragment, fragment⟩ := cut_fragment normal
  obtain ⟨path, query⟩ := cut_query normal
  rw [← List.append_assoc url.pathText.toList, ← String.toList_append, ← target] at authority after
  unfold ofWeb
  dsimp only
  rw [drop_slashes normal, authority, after, beforeFragment, fragment, path, query,
    cutUserinfo_authority normal, cutHost_text normal.host hostEnds, if_neg nonempty, host, port,
    pathText_eq, pathOf_slashed normal.path.1 normal.path.2, queryText_eq, read_marked normal.query,
    fragmentText, read_marked normal.fragment]
  change Except.ok _ = _
  rw [userinfo_read normal, if_neg otherPort]

theorem visible_of_mem_text (normal : url.IsNormal) {c : Char} (member : c ∈ url.text.toList) :
    0x20 < c.toNat := by
  rw [text_eq, target] at member
  simp only [String.toList_append, List.mem_append] at member
  rcases member with ((scheme | inAuthority) | (inPath | inQuery)) | inFragment
  · have each : ("https://".toList ++ "http://".toList).all (0x20 < ·.toNat) = true := by decide
    refine of_decide_eq_true (List.all_eq_true.mp each c (List.mem_append.mpr ?_))
    unfold schemeText at scheme
    split at scheme
    · exact .inl scheme
    · exact .inr scheme
  · rcases isPlain_of_mem_authority normal inAuthority with plain | rfl
    · exact (Host.isPlain_iff.mp plain).1
    · decide
  · rw [pathText_eq, toList_slashed] at inPath
    obtain ⟨segment, inside, own⟩ := List.mem_flatMap.mp inPath
    rcases List.mem_cons.mp own with rfl | own
    · decide
    · exact visible_of_isClean (by decide) ((normal.path.2 segment inside).isClean c own)
  · rw [queryText_eq] at inQuery
    rcases mem_marked inQuery with rfl | ⟨query, given, own⟩
    · decide
    · exact visible_of_isClean (by decide) (normal.isClean_query given c own)
  · rcases mem_marked inFragment with rfl | ⟨fragment, given, own⟩
    · decide
    · exact visible_of_isClean (by decide) (normal.isClean_fragment given c own)

/-- A normal URL reads back from its text. -/
theorem read_text (normal : url.IsNormal) : Url.read url.text = .ok (.web url) := by
  have scheme : cutScheme? (significant url.text) = some (if url.secure then "https" else "http",
      "//".toList ++ (url.authority.toList ++ (url.target.toList ++ url.fragmentText.toList))) := by
    rw [significant_of_visible fun _ => visible_of_mem_text normal, text_eq]
    simp only [String.toList_append, List.append_assoc]
    exact cutScheme?_web url.secure _
  rw [read_web scheme, ofWeb_text normal]
  rfl

end

end ClusterClient.Url
