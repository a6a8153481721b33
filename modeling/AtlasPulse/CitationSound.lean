import AtlasPulse.Lib.IpAddress
import AtlasPulse.Ranking

/-!
# Soundness of citations

A citation is the first evidence field that passes the checks on its URL, and
that URL names no address that is not global, unless it spells one in a way
that `ip_address` does not read.
-/

namespace AtlasPulse

open IpAddress PyTime Binary64

section
variable {E : Type} (m : RetrievalModel E)

/-! ## Hosts -/

/-- What the parameters of the model take over from Python's library. -/
structure ReadsHosts : Prop where
  isGlobalAddress : ∀ text, m.isGlobalAddress text = (ipAddress text).map Address.isGlobal
  casefold : ∀ text, isAscii text → m.casefold text = lower text

/-- The host is an address that is not global, in a spelling that `ip_address`
does not read: of fewer parts than four, or with an octal or hexadecimal one. -/
def DisguisedHost (hostname : String) : Prop :=
  ipAddress (lower (stripDots hostname)) = none ∧ ∃ a, readHost hostname = some a ∧ a.isGlobal = false

def DisguisedUrl (url : String) : Prop :=
  ∃ parsed hostname, m.urlsplit url = some parsed ∧ parsed.hostname = some hostname ∧ DisguisedHost hostname

/-- An HTTP(S) URL without credentials whose host is, in no spelling, an
address that is not global. -/
def PublicUrl (url : String) : Prop :=
  ∃ parsed hostname, m.urlsplit url = some parsed ∧ parsed.scheme ∈ ["http", "https"] ∧ parsed.username = none ∧
    parsed.password = none ∧ parsed.hostname = some hostname ∧ hostname ≠ "" ∧ ∀ a, readHost hostname = some a → a.isGlobal = true

variable {m}

theorem toLower_eq_dot {c : Char} : c.toLower = '.' ↔ c = '.' := by
  unfold Char.toLower
  split
  · rename_i h
    obtain ⟨hle, hge⟩ := h
    rw [ge_iff_le, UInt32.le_iff_toNat_le] at hle
    rw [UInt32.le_iff_toNat_le] at hge
    have hA : 'A'.val.toNat = 65 := rfl
    have hZ : 'Z'.val.toNat = 90 := rfl
    constructor
    · intro heq
      have hval : (c.val + ('a'.val - 'A'.val)).toNat = 46 := congrArg (fun d : Char => d.val.toNat) heq
      rw [UInt32.toNat_add, show ('a'.val - 'A'.val).toNat = 32 from rfl] at hval
      omega
    · rintro rfl
      exact absurd hle (by decide)
  · rfl

theorem getLast?_lower (text : String) : (lower text).toList.getLast? = some '.' ↔ text.toList.getLast? = some '.' := by
  rw [lower, String.toList_ofList, List.getLast?_map]
  cases text.toList.getLast? with
  | none => rfl
  | some c =>
    rw [Option.map_some, Option.some_inj, Option.some_inj]
    exact toLower_eq_dot

theorem stripDots_of_not_dotted {text : String} (h : text.toList.getLast? ≠ some '.') : stripDots text = text := by
  unfold stripDots
  have hkeep : text.toList.reverse.dropWhile (fun c => decide (c = '.')) = text.toList.reverse := by
    cases hrev : text.toList.reverse with
    | nil => rfl
    | cons c cs =>
      rw [List.getLast?_eq_head?_reverse, hrev, List.head?_cons] at h
      exact List.dropWhile_cons_of_neg (by simpa using h)
  rw [hkeep, List.reverse_reverse, String.ofList_toList]

theorem stripDots_concat (text : List Char) : stripDots (String.ofList (text ++ ['.'])) = stripDots (String.ofList text) := by
  unfold stripDots
  rw [String.toList_ofList, String.toList_ofList, List.reverse_append, List.reverse_singleton, List.singleton_append,
    List.dropWhile_cons_of_pos (by rfl)]

/-- One dot at the end, or none, is what `rstrip` takes off a host that is read. -/
theorem dropDot_lower {hostname : String} (h : (dropDot (lower hostname).toList).getLast? ≠ some '.') :
    dropDot (lower hostname).toList = (lower (stripDots hostname)).toList := by
  by_cases hlast : hostname.toList.getLast? = some '.'
  · obtain ⟨start, hstart⟩ := List.getLast?_eq_some_iff.mp hlast
    have hname : hostname = String.ofList (start ++ ['.']) := by rw [← hstart, String.ofList_toList]
    have hdrop : dropDot (lower hostname).toList = (lower (String.ofList start)).toList := by
      rw [dropDot, if_pos ((getLast?_lower hostname).mpr hlast), hname, lower, lower, String.toList_ofList, String.toList_ofList,
        String.toList_ofList, String.toList_ofList, List.map_append, List.map_singleton, List.dropLast_concat]
    rw [hdrop] at h ⊢
    have hkeep : (String.ofList start).toList.getLast? ≠ some '.' := fun hdot => h ((getLast?_lower _).mpr hdot)
    rw [hname, stripDots_concat, stripDots_of_not_dotted hkeep]
  · rw [dropDot, if_neg fun hdot => hlast ((getLast?_lower _).mp hdot), stripDots_of_not_dotted hlast]

theorem isAscii_stripDots {text : String} (h : isAscii text = true) : isAscii (stripDots text) = true := by
  unfold isAscii stripDots at *
  rw [List.all_eq_true] at h ⊢
  rw [String.toList_ofList]
  intro c hc
  rw [List.mem_reverse] at hc
  exact h c (List.mem_reverse.mp ((List.dropWhile_sublist _).subset hc))

/-- A host that is read is read from the text that the code checks. -/
theorem read_of_readHost {hostname : String} {a : Address} (h : readHost hostname = some a) :
    isAscii hostname = true ∧ ((host4 (lower (stripDots hostname)).toList).map Address.v4).or
      ((colonGroups (lower (stripDots hostname)).toList).map .v6) = some a := by
  unfold readHost at h
  split at h
  · rename_i hascii
    refine ⟨hascii, ?_⟩
    cases hhost : host4 (dropDot (lower hostname).toList) with
    | some n =>
      rw [hhost, Option.map_some, Option.some_or] at h
      rw [← dropDot_lower (host4_not_dotted hhost), hhost, Option.map_some, Option.some_or, h]
    | none =>
      rw [hhost, Option.map_none, Option.none_or] at h
      obtain ⟨n, hn, -⟩ := Option.map_eq_some_iff.mp h
      have hlast := (colonGroups_shape hn).2.2
      have hkeep : stripDots hostname = hostname := stripDots_of_not_dotted fun hdot => hlast ((getLast?_lower _).mpr hdot)
      have hdrop : dropDot (lower hostname).toList = (lower hostname).toList := if_neg hlast
      rw [hdrop] at hhost
      rw [hkeep, hhost, Option.map_none, Option.none_or, h]
  · cases h

/-- A host that the code lets through is public, unless it is disguised. -/
theorem global_of_hostReason (hm : ReadsHosts m) {hostname : String} (h : hostReason m hostname = none)
    (hdisguised : ¬ DisguisedHost hostname) {a : Address} (ha : readHost hostname = some a) : a.isGlobal = true := by
  obtain ⟨hascii, hread⟩ := read_of_readHost ha
  have hfold : m.casefold (stripDots hostname) = lower (stripDots hostname) := hm.casefold _ (isAscii_stripDots hascii)
  cases hip : ipAddress (lower (stripDots hostname)) with
  | none =>
    by_contra hnot
    exact hdisguised ⟨hip, a, ha, Bool.eq_false_iff.mpr hnot⟩
  | some b =>
    obtain rfl := ipAddress_of_read hread hip
    unfold hostReason at h
    simp only [hfold, hm.isGlobalAddress, hip, Option.map_some] at h
    split at h
    · cases h
    · split at h
      · assumption
      · cases h

/-! ## Fields -/

/-- The first of the fields whose URL has a property. -/
def FirstField (m : RetrievalModel E) (event : E) (fields : List String) (P : String → Prop) (field url : String) : Prop :=
  ∃ before after, fields = before ++ field :: after ∧ evidenceUrl m event field = some url ∧ P url ∧
    ∀ other ∈ before, ∀ u, evidenceUrl m event other = some u → ¬ P u

/-- The checks of `_public_http_url` pass. -/
def Accepted (m : RetrievalModel E) (url : String) : Prop := (publicHttpUrl m url).1 = true

theorem FirstField.cons {event : E} {fields : List String} {P : String → Prop} {field url other : String}
    (h : FirstField m event fields P field url) (hother : ∀ u, evidenceUrl m event other = some u → ¬ P u) :
    FirstField m event (other :: fields) P field url := by
  obtain ⟨before, after, hfields, hurl, hp, hbefore⟩ := h
  exact ⟨other :: before, after, by rw [hfields]; rfl, hurl, hp, List.forall_mem_cons.mpr ⟨hother, hbefore⟩⟩

/-- The loop cites the first field that is accepted, or none. -/
theorem citeFields_first (m : RetrievalModel E) (event : E) (rejected fields : List String) :
    (∃ field url, FirstField m event fields (Accepted m) field url ∧ (citeFields m event rejected fields).url = some url ∧
      (citeFields m event rejected fields).sourceField = some field) ∨
    ((∀ field ∈ fields, ∀ url, evidenceUrl m event field = some url → ¬ Accepted m url) ∧
      (citeFields m event rejected fields).url = none) := by
  induction fields generalizing rejected with
  | nil =>
    refine Or.inr ⟨fun field hfield => absurd hfield List.not_mem_nil, ?_⟩
    unfold citeFields
    split <;> rfl
  | cons other fields ih =>
    have hskip : ∀ rejected', (∀ u, evidenceUrl m event other = some u → ¬ Accepted m u) →
        citeFields m event rejected (other :: fields) = citeFields m event rejected' fields →
        (∃ field url, FirstField m event (other :: fields) (Accepted m) field url ∧
          (citeFields m event rejected (other :: fields)).url = some url ∧
          (citeFields m event rejected (other :: fields)).sourceField = some field) ∨
        ((∀ field ∈ other :: fields, ∀ url, evidenceUrl m event field = some url → ¬ Accepted m url) ∧
          (citeFields m event rejected (other :: fields)).url = none) := by
      intro rejected' hother heq
      rw [heq]
      exact (ih rejected').imp (fun ⟨field, url, hfirst, hcited⟩ => ⟨field, url, hfirst.cons hother, hcited⟩)
        fun ⟨hnone, hurl⟩ => ⟨List.forall_mem_cons.mpr ⟨hother, hnone⟩, hurl⟩
    cases hurl : evidenceUrl m event other with
    | none =>
      refine hskip rejected (fun u hu => ?_) (by rw [citeFields, hurl])
      rw [hurl] at hu
      cases hu
    | some candidate =>
      by_cases haccepted : Accepted m candidate
      · refine Or.inl ⟨other, candidate, ⟨[], fields, rfl, hurl, haccepted, fun _ h => absurd h List.not_mem_nil⟩, ?_⟩
        have hcite : citeFields m event rejected (other :: fields) =
            ⟨.traceable, some candidate, some other, (publicHttpUrl m candidate).2⟩ := by
          rw [citeFields, hurl]
          exact if_pos haccepted
        rw [hcite]
        exact ⟨rfl, rfl⟩
      · refine hskip (rejected ++ (publicHttpUrl m candidate).2.map fun reason => other ++ ":" ++ reason) (fun u hu => ?_) ?_
        · rw [hurl] at hu
          rwa [← Option.some.inj hu]
        · rw [citeFields, hurl]
          exact if_neg haccepted

/-- Two first fields of which one property is the stronger. -/
theorem FirstField.unique {event : E} {fields : List String} {P Q : String → Prop} {field url field' url' : String}
    (h : FirstField m event fields P field url) (h' : FirstField m event fields Q field' url') (hPQ : ∀ u, Q u → P u) (hQ : Q url) :
    field' = field ∧ url' = url := by
  obtain ⟨before, after, hfields, hurl, hp, hbefore⟩ := h
  obtain ⟨before', after', hfields', hurl', hq, hbefore'⟩ := h'
  have hsplit := hfields.symm.trans hfields'
  rcases List.append_eq_append_iff.mp hsplit with ⟨rest, hrest, htail⟩ | ⟨rest, hrest, htail⟩
  · cases rest with
    | nil =>
      obtain ⟨rfl, -⟩ := List.cons.inj htail
      exact ⟨rfl, Option.some.inj (hurl'.symm.trans hurl)⟩
    | cons x rest =>
      obtain ⟨rfl, -⟩ := List.cons.inj htail
      exact absurd hQ (hbefore' field (by rw [hrest]; exact List.mem_append_right _ List.mem_cons_self) url hurl)
  · cases rest with
    | nil =>
      obtain ⟨rfl, -⟩ := List.cons.inj htail
      exact ⟨rfl, Option.some.inj (hurl'.symm.trans hurl)⟩
    | cons x rest =>
      obtain ⟨rfl, -⟩ := List.cons.inj htail
      exact absurd (hPQ _ hq) (hbefore field' (by rw [hrest]; exact List.mem_append_right _ List.mem_cons_self) url' hurl')

/-! ## Citations -/

/-- What `_public_http_url` has checked of a URL that it accepts. -/
theorem accepted_parts {url : String} (h : Accepted m url) : ∃ parsed hostname, m.urlsplit url = some parsed ∧
    parsed.scheme ∈ ["http", "https"] ∧ (parsed.username = none ∧ parsed.password = none) ∧
    (parsed.hostname = some hostname ∧ hostname ≠ "") ∧ hostReason m hostname = none := by
  unfold Accepted publicHttpUrl at h
  cases hsplit : m.urlsplit url with
  | none => simp [hsplit] at h
  | some parsed =>
    simp only [hsplit] at h
    by_cases hscheme : parsed.scheme ∉ ["http", "https"]
    · rw [if_pos hscheme] at h
      cases h
    · rw [if_neg hscheme] at h
      by_cases hcredentials : (parsed.username.isSome || parsed.password.isSome) = true
      · rw [if_pos hcredentials] at h
        cases h
      · rw [if_neg hcredentials] at h
        cases hname : parsed.hostname.filter (· ≠ "") with
        | none =>
          rw [hname] at h
          cases h
        | some hostname =>
          simp only [hname] at h
          split at h
          · cases h
          · cases hreason : hostReason m hostname with
            | some reason => simp [hreason] at h
            | none =>
              rw [Bool.or_eq_true, not_or, Bool.not_eq_true, Bool.not_eq_true, Option.isSome_eq_false_iff, Option.isNone_iff_eq_none,
                Option.isSome_eq_false_iff, Option.isNone_iff_eq_none] at hcredentials
              obtain ⟨hhost, hne⟩ := Option.filter_eq_some_iff.mp hname
              exact ⟨parsed, hostname, rfl, not_not.mp hscheme, hcredentials, ⟨hhost, of_decide_eq_true hne⟩, hreason⟩

theorem publicUrl_of_accepted (hm : ReadsHosts m) {url : String} (h : Accepted m url) (hdisguised : ¬ DisguisedUrl m url) :
    PublicUrl m url := by
  obtain ⟨parsed, hostname, hsplit, hscheme, ⟨huser, hpassword⟩, ⟨hhost, hne⟩, hreason⟩ := accepted_parts h
  exact ⟨parsed, hostname, hsplit, hscheme, huser, hpassword, hhost, hne, fun a ha =>
    global_of_hostReason hm hreason (fun hd => hdisguised ⟨parsed, hostname, hsplit, hhost, hd⟩) ha⟩

theorem not_publicUrl {url : String} (h : DisguisedUrl m url) : ¬ PublicUrl m url := by
  obtain ⟨parsed, hostname, hsplit, hhost, -, a, hread, hglobal⟩ := h
  rintro ⟨parsed', hostname', hsplit', -, -, -, hhost', -, hpublic⟩
  obtain rfl := Option.some.inj (hsplit.symm.trans hsplit')
  obtain rfl := Option.some.inj (hhost.symm.trans hhost')
  rw [hpublic a hread] at hglobal
  cases hglobal

end

/-- The citation of an event: the first field with an accepted URL that is
public, and only such a URL. -/
structure CitesPublicly {E : Type} (m : RetrievalModel E) (event : E) : Prop where
  sound : ∀ url, (validateEventCitation m event).url = some url → PublicUrl m url
  first : ∀ field url, FirstField m event evidenceFields (fun u => Accepted m u ∧ PublicUrl m u) field url →
    (validateEventCitation m event).url = some url ∧ (validateEventCitation m event).sourceField = some field

namespace Loopback

/-- An event by its evidence fields. -/
abbrev Report := List (String × String)

def floats : FloatOps Float64 where
  ofRat := fun q => (intDiv q.num q.den).toOption.getD (Float64.ofInt 0)
  isfinite := Float64.isFinite
  lt := Float64.lt
  le := Float64.le
  abs := Float64.abs
  mul := Float64.mul
  div := fun x y => ((x.div y).toOption).getD x
  sum := Float64.sum
  radians := id
  degrees := id
  cos := id
  sin := id
  hypot := fun x _ => x
  atan2 := fun x _ => x
  round := fun x digits => x.round digits

def hosts : List (String × String) :=
  [("https://127.0.0.1/", "127.0.0.1"), ("https://127.1/", "127.1"), ("https://earthquake.usgs.gov/", "earthquake.usgs.gov")]

theorem one_isToken : "1.0".toList.all PyJson.isNumberChar = true := by decide

theorem one_isFloat : "1.0".toList.any (fun c => c = '.' || c = 'e') = true := by decide

def reports : RetrievalModel Report where
  eventId := fun _ => "quake"
  source := fun _ => "usgs"
  modelDump := fun _ => .null
  modelDumpJson := fun _ => ""
  modelValidateJson := fun _ => .error "not stored"
  sha256 := fun _ => "d7c13e395230b5bd4d4d029d673aebcfdefaa9aa6c9e93359fc4c3b19d86608a"
  float := floats
  eventType := fun _ => "seismic.earthquake"
  occurredAt := fun _ => ⟨0, some 0, epoch_inRange, offsetBound_zero⟩
  location := fun _ => none
  payload := fun event key => (event.lookup key).map .str
  totalSeconds := fun later earlier => Float64.ofInt (later.instant - earlier.instant)
  isoformat := fun t => String.ofList t.isoChars
  formatGeneral := fun _ => ""
  formatFixed := fun _ => ""
  casefold := lower
  isWord := fun c => c.isAlphanum || c = '_'
  ingestedAt := fun _ => ⟨0, some 0, epoch_inRange, offsetBound_zero⟩
  schemaVersion := fun _ => "1.0"
  urlsplit := fun url => (hosts.lookup url).map fun host => ⟨"https", none, none, some host, none, ""⟩
  isGlobalAddress := fun text => (ipAddress text).map Address.isGlobal
  parseQsl := fun _ => []
  floatRepr := fun _ => ⟨"1.0".toList, one_isToken, one_isFloat⟩

theorem readsHosts : ReadsHosts reports := ⟨fun _ => rfl, fun _ _ => rfl⟩

/-- A report whose first link is a loopback address. -/
def report : Report := [("source_url", "https://127.0.0.1/"), ("detail_url", "https://earthquake.usgs.gov/")]

def disguisedReport : Report := [("source_url", "https://127.1/"), ("detail_url", "https://earthquake.usgs.gov/")]

theorem disguised : DisguisedUrl reports "https://127.1/" :=
  ⟨⟨"https", none, none, some "127.1", none, ""⟩, "127.1", rfl, rfl, by decide, .v4 0x7f000001, by decide,
    by decide⟩

theorem report_hosts : ∀ field ∈ evidenceFields, ((evidenceUrl reports report field).bind fun url => hosts.lookup url).all
    (fun host => (ipAddress (lower (stripDots host))).isSome || (readHost host).isNone) = true := by decide

end Loopback

end AtlasPulse
