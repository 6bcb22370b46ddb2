import WalletConsole.Proofs.Remote.Address
import WalletConsole.Proofs.Remote.Percent
import WalletConsole.Proofs.Remote.Requests

/-!
# The address of a single delete

To delete one row, its identifier is put behind the path of its collection as it is. What the
address then names is decided when the whole of it is read as a URL: an identifier with a slash has
several segments, one with a question mark a query, and `..` names what stands above the collection.
The row is named exactly if the identifier is plain.

* `IsPlain` — identifiers that stand for themselves in an address
* `Url.NamesRow` — an address names this row of a collection, and nothing else
* `Client.request?_deleteOne` — where the request goes, whatever the identifier is
* `single_delete_names_row_iff` — **a single delete is addressed to its row exactly if the
  identifier is plain**
* `invoice_deleted_as_key` — an identifier of a key that names an invoice
-/

namespace WalletConsole.Remote

open Text

/-! ## Dot segments -/

theorem map_toLower_eq_iff {s t : List Char} (ht : t.all (·.toNat < 65) = true) :
    s.map Char.toLower = t ↔ s = t := by
  induction t generalizing s with
  | nil => simp
  | cons d t ih =>
    rw [List.all_cons, Bool.and_eq_true, decide_eq_true_eq] at ht
    obtain ⟨hd, hrest⟩ := ht
    cases s with
    | nil => simp
    | cons c s => simp [toLower_eq_iff hd, ih hrest]

/-- A text without escapes is no dot segment that is written with escapes. -/
theorem ofList_map_toLower_ne {s : List Char} (h : hasEscape s = false) {name : String}
    (hname : hasEscape name.toList = true) : String.ofList (s.map Char.toLower) ≠ name := by
  rintro rfl
  rw [String.toList_ofList, hasEscape_map_toLower, h] at hname
  cases hname

theorem ofList_map_toLower_eq_iff {s : List Char} {name : String}
    (hname : name.toList.all (·.toNat < 65) = true) :
    String.ofList (s.map Char.toLower) = name ↔ s = name.toList := by
  rw [← map_toLower_eq_iff hname]
  constructor
  · rintro rfl
    rw [String.toList_ofList]
  · intro heq
    rw [heq, String.ofList_toList]

theorem isSingleDot_iff {s : List Char} (h : hasEscape s = false) :
    Url.isSingleDot s = true ↔ s = ['.'] := by
  have hescaped : String.ofList (s.map Char.toLower) ≠ "%2e" := ofList_map_toLower_ne h (by decide)
  rw [Url.isSingleDot, List.contains_iff_mem]
  simp only [List.mem_cons, List.not_mem_nil, or_false, hescaped]
  exact ofList_map_toLower_eq_iff (by decide)

theorem isDoubleDot_iff {s : List Char} (h : hasEscape s = false) :
    Url.isDoubleDot s = true ↔ s = ['.', '.'] := by
  have hsecond : String.ofList (s.map Char.toLower) ≠ ".%2e" := ofList_map_toLower_ne h (by decide)
  have hfirst : String.ofList (s.map Char.toLower) ≠ "%2e." := ofList_map_toLower_ne h (by decide)
  have hboth : String.ofList (s.map Char.toLower) ≠ "%2e%2e" :=
    ofList_map_toLower_ne h (by decide)
  rw [Url.isDoubleDot, List.contains_iff_mem]
  simp only [List.mem_cons, List.not_mem_nil, or_false, hsecond, hfirst, hboth]
  exact ofList_map_toLower_eq_iff (by decide)

/-! ## Plain identifiers -/

/-- An identifier that stands for itself in an address. -/
structure IsPlain (id : String) : Prop where
  /-- no character divides segments, ends the path or is dropped -/
  chars : ∀ c ∈ id.toList, Url.isSlash c = false ∧ Url.endsPath c = false ∧
    Url.isDropped c = false
  /-- the last character is none of those that are dropped at an end -/
  last : ∀ c ∈ id.toList.getLast?, Url.isEdge c = false
  noDots : id ≠ "." ∧ id ≠ ".."
  noEscape : hasEscape id.toList = false

instance (id : String) : Decidable (IsPlain id) :=
  decidable_of_iff
    (id.toList.all (fun c => !Url.isSlash c && !Url.endsPath c && !Url.isDropped c) = true ∧
      id.toList.getLast?.all (!Url.isEdge ·) = true ∧ (id ≠ "." ∧ id ≠ "..") ∧
      hasEscape id.toList = false) <| by
    simp only [List.all_eq_true, Option.all_eq_true, Bool.and_eq_true, Bool.not_eq_true', and_assoc]
    exact ⟨fun ⟨chars, last, single, double, noEscape⟩ => ⟨chars, last, ⟨single, double⟩, noEscape⟩,
      fun ⟨chars, last, noDots, noEscape⟩ => ⟨chars, last, noDots.1, noDots.2, noEscape⟩⟩

/-- All of a plain identifier is read as part of the path. -/
theorem IsPlain.pathBack {id : String} (h : IsPlain id) :
    Url.pathBack id.toList = id.toList :=
  Url.pathBack_eq_self_iff.mpr
    ⟨fun c hc => (h.chars c hc).2.1, fun c hc => (h.chars c hc).2.2, h.last⟩

/-! ## The request -/

/-- The segments of the path of a collection. -/
def Collection.segments (rows : Collection) : List (List Char) :=
  splitWhere Url.isSlash (rows.path.toList.drop 1)

theorem Collection.path_toList (rows : Collection) :
    rows.path.toList = '/' :: rows.path.toList.drop 1 := by
  cases rows <;> decide

theorem Collection.segments_plain (rows : Collection) : ∀ s ∈ rows.segments,
    Url.isDoubleDot s = false ∧ Url.isSingleDot s = false ∧ percentEncode pathSet s = s := by
  cases rows <;> decide

theorem Collection.percentDecoded_segments (rows : Collection) :
    rows.segments.map percentDecoded = rows.segments.map String.ofList := by
  have hescape : ∀ s ∈ rows.segments, hasEscape s = false := by cases rows <;> decide
  refine List.map_congr_left fun s hs => ?_
  have hread := percentDecoded_percentEncode_iff.mpr (hescape s hs)
  rwa [(rows.segments_plain s hs).2.2] at hread

theorem Collection.segments_inj : ∀ {rows rows' : Collection},
    rows.segments.map String.ofList = rows'.segments.map String.ofList → rows = rows' := by
  intro rows rows'
  cases rows <;> cases rows' <;> decide

theorem Collection.path_chars (rows : Collection) : ∀ c ∈ rows.path.toList.drop 1,
    Url.isDropped c = false ∧ Url.endsPath c = false := by
  have hnone : (rows.path.toList.drop 1).any
      (fun c => Url.isDropped c || Url.endsPath c) = false := by
    cases rows <;> decide
  intro c hc
  simpa using List.any_eq_false.mp hnone c hc

/-- A client whose address is a URL, to which paths can be added. -/
structure Client.HasAddress (c : Client) (base : Url) : Prop where
  isUrl : Url.parse? (c.baseUrl.toList ++ ['/']) = some base
  /-- the address has no query and no fragment -/
  isPath : ∀ ch ∈ c.baseUrl.toList, Url.endsPath ch = false

/-- The URL of an identifier that is put behind the path of a collection. -/
def Url.ofRow (base : Url) (rows : Collection) (id : String) : Url :=
  { base with
    path := Url.follow (base.path.dropLast ++ rows.segments)
      (splitWhere Url.isSlash (Url.pathBack id.toList))
    query := Url.queryBack id.toList }

/-- Where the request goes: the identifier is part of what is read as a URL. -/
theorem Client.request?_deleteOne {c : Client} {base : Url} (hbase : c.HasAddress base)
    (htoken : ∀ token ∈ c.token, token.toList.all isHeaderChar = true) (rows : Collection)
    (id : String) :
    c.request? (.deleteOne rows id) =
      some ⟨.delete, Url.ofRow base rows id, c.token.map ("Bearer " ++ ·)⟩ := by
  have htext : (c.baseUrl ++ (WalletCall.deleteOne rows id).path).toList =
      c.baseUrl.toList ++ '/' :: (rows.path.toList.drop 1 ++ '/' :: id.toList) := by
    show (c.baseUrl ++ (rows.path ++ "/" ++ id)).toList = _
    rw [String.toList_append, String.toList_append, String.toList_append, rows.path_toList]
    simp
  obtain ⟨part, parts, hparts⟩ :
    ∃ part parts, splitWhere Url.isSlash (Url.pathBack id.toList) = part :: parts :=
    List.exists_cons_of_ne_nil (splitWhere_ne_nil _)
  have hfollow : Url.follow base.path.dropLast
      (rows.segments ++ splitWhere Url.isSlash (Url.pathBack id.toList)) =
        (Url.ofRow base rows id).path := by
    rw [Url.ofRow, hparts, Url.follow_append, Url.along_of_plain rows.segments_plain]
  have hurl : Url.parse? (c.baseUrl ++ (WalletCall.deleteOne rows id).path).toList =
      some (Url.ofRow base rows id) := by
    rw [htext, Url.parse?_below hbase.isUrl hbase.isPath,
      Url.pathBack_append_slash rows.path_chars, Url.queryBack_append_slash rows.path_chars,
      splitWhere_append_cons (by decide)]
    show some { base with path := Url.follow _ (rows.segments ++ _), query := _ } = _
    rw [hfollow]
    rfl
  exact Client.request?_eq_some_iff.mpr ⟨_, hurl, htoken, rfl⟩

/-! ## The row that is named -/

/-- A URL names a row of a collection below an address, and nothing else. -/
structure Url.NamesRow (u base : Url) (rows : Collection) (id : String) : Prop where
  host : u.scheme = base.scheme ∧ u.authority = base.authority
  path : u.path.map percentDecoded =
    (base.path.dropLast ++ rows.segments).map percentDecoded ++ [id]
  query : u.query = none

section

variable {base : Url} {rows : Collection} {id : String}

/-- The path to a plain identifier ends with the identifier. -/
theorem IsPlain.namesRow (h : IsPlain id) : (Url.ofRow base rows id).NamesRow base rows id := by
  have hsingle : ¬ Url.isSingleDot id.toList = true := by
    rw [isSingleDot_iff h.noEscape]
    intro heq
    exact h.noDots.1 (String.toList_inj.mp heq)
  have hdouble : ¬ Url.isDoubleDot id.toList = true := by
    rw [isDoubleDot_iff h.noEscape]
    intro heq
    exact h.noDots.2 (String.toList_inj.mp heq)
  refine ⟨⟨rfl, rfl⟩, ?_, Url.queryBack_of_pathBack h.pathBack⟩
  rw [Url.ofRow, h.pathBack, splitWhere_of_noSeparator fun c hc => (h.chars c hc).1, Url.follow,
    if_neg hdouble, if_neg hsingle, List.map_append, List.map_singleton,
    percentDecoded_percentEncode_iff.mpr h.noEscape, String.ofList_toList]

/--
A path that ends with an identifier ends with all of it: nothing was dropped or cut off, and nothing
stands for anything else, since all of this makes what is read shorter.
-/
theorem isPlain_of_path {path front : List (List Char)}
    (h : (Url.follow path (splitWhere Url.isSlash (Url.pathBack id.toList))).map percentDecoded =
      front.map percentDecoded ++ [id]) : IsPlain id := by
  obtain ⟨parts, last, hsplit, hlast, hone⟩ := exists_lastPart Url.isSlash (Url.pathBack id.toList)
  rw [hsplit] at h
  rcases Url.follow_concat path parts last with
    ⟨start, hfollow, -⟩ | ⟨start, hfollow, hdouble, hsingle⟩
  · -- a dot segment at the end leaves nothing to be read
    rw [hfollow, List.map_append, List.map_singleton] at h
    have hid : percentDecoded [] = id := by simpa using congrArg List.getLast? h
    have hempty : percentDecoded [] = "" := (percentDecoded_percentEncode_iff (s := [])).mpr rfl
    rw [← hid, hempty]
    decide
  · rw [hfollow, List.map_append, List.map_singleton] at h
    have hid : percentDecoded (percentEncode pathSet last) = id := by
      simpa using congrArg List.getLast? h
    have hread := length_percentDecoded last
    rw [hid] at hread
    have hkept := (Url.pathBack_sublist id.toList).length_le
    have hall : Url.pathBack id.toList = id.toList :=
      (Url.pathBack_sublist id.toList).eq_of_length (by omega)
    have hescape : hasEscape last = false := by
      rw [← Bool.toNat_eq_zero]
      omega
    obtain rfl : last = id.toList := by
      rw [← hid, percentDecoded_percentEncode_iff.mpr hescape, String.toList_ofList]
    rw [hall] at hone
    obtain ⟨hinside, hdropped, hedge⟩ := Url.pathBack_eq_self_iff.mp hall
    refine ⟨fun c hc => ⟨hone rfl c hc, hinside c hc, hdropped c hc⟩, hedge, ⟨?_, ?_⟩, hescape⟩
    · rintro rfl
      exact absurd hsingle (by decide)
    · rintro rfl
      exact absurd hdouble (by decide)

theorem namesRow_ofRow_iff : (Url.ofRow base rows id).NamesRow base rows id ↔ IsPlain id :=
  ⟨fun h => isPlain_of_path h.path, IsPlain.namesRow⟩

/-- No URL names two rows. -/
theorem Url.NamesRow.unique {u : Url} {rows' : Collection} {id' : String}
    (h : u.NamesRow base rows id) (h' : u.NamesRow base rows' id') : rows = rows' ∧ id = id' := by
  have hpath := h.path.symm.trans h'.path
  rw [List.map_append, List.map_append, List.append_assoc, List.append_assoc,
    List.append_cancel_left_eq] at hpath
  obtain ⟨hrows, hid⟩ := List.append_inj' hpath rfl
  rw [rows.percentDecoded_segments, rows'.percentDecoded_segments] at hrows
  exact ⟨Collection.segments_inj hrows, List.singleton_inj.mp hid⟩

end

/-- **A single delete is addressed to its row exactly if the identifier is plain.** It is one
request, whatever the identifier is, and no two rows with plain identifiers have the same one. -/
theorem single_delete_names_row_iff (c : Client) (base : Url) (hbase : c.HasAddress base)
    (htoken : ∀ token ∈ c.token, token.toList.all isHeaderChar = true) :
    (∀ rows id, ∃ r : Request,
      (∀ exchange, (c.run exchange (.deleteOne rows id)).2 = [r]) ∧ r.method = .delete ∧
      (r.url.NamesRow base rows id ↔ IsPlain id)) ∧
    ∀ rows rows' id id', IsPlain id → IsPlain id' →
      c.request? (.deleteOne rows id) = c.request? (.deleteOne rows' id') →
      rows = rows' ∧ id = id' := by
  refine ⟨fun rows id => ?_, ?_⟩
  · refine ⟨⟨.delete, Url.ofRow base rows id, c.token.map ("Bearer " ++ ·)⟩, ?_, rfl,
      namesRow_ofRow_iff⟩
    intro exchange
    rw [Client.run_requests, Client.request?_deleteOne hbase htoken]
    rfl
  · intro rows rows' id id' hid hid' hsame
    rw [Client.request?_deleteOne hbase htoken, Client.request?_deleteOne hbase htoken] at hsame
    have hurl : Url.ofRow base rows id = Url.ofRow base rows' id' := by simpa using hsame
    have hrow : (Url.ofRow base rows id).NamesRow base rows id := hid.namesRow
    have hrow' : (Url.ofRow base rows id).NamesRow base rows' id' := hurl ▸ hid'.namesRow
    exact hrow.unique hrow'

/-- A backend on the same machine. -/
def localClient : Client := ⟨"http://localhost:3000", none⟩

/-- Its address. -/
def localBase : Url := ⟨"http", "localhost:3000".toList, [[]], none⟩

theorem hasAddress_localClient : localClient.HasAddress localBase := by
  have hpath : localClient.baseUrl.toList.any Url.endsPath = false := by decide
  exact ⟨by decide, fun ch hch => by simpa using List.any_eq_false.mp hpath ch hch⟩

theorem single_delete_names_row_iff_locally :
    (∃ r : Request, (∀ exchange,
      (localClient.run exchange (.deleteOne .payments "p 1/é")).2 = [r]) ∧ r.method = .delete ∧
      ¬ r.url.NamesRow localBase .payments "p 1/é") ∧
    ∃ r : Request, (∀ exchange,
      (localClient.run exchange (.deleteOne .payments "p 1é")).2 = [r]) ∧ r.method = .delete ∧
      r.url.NamesRow localBase .payments "p 1é" := by
  have hrows := (single_delete_names_row_iff localClient localBase hasAddress_localClient
    (fun token htoken => (Option.not_mem_none token htoken).elim)).1
  obtain ⟨r, hsent, hdelete, hiff⟩ := hrows .payments "p 1/é"
  obtain ⟨r', hsent', hdelete', hiff'⟩ := hrows .payments "p 1é"
  refine ⟨⟨r, hsent, hdelete, ?_⟩, r', hsent', hdelete', hiff'.mpr (by decide)⟩
  rw [hiff]
  decide

/-- **An identifier of a key that names an invoice**: its slashes are read as slashes, and its dots
lead out of the collection. -/
theorem invoice_deleted_as_key : ∃ r : Request,
    localClient.request? (.deleteOne .apiKeys "../invoices/i1") = some r ∧
    localClient.request? (.deleteOne .invoices "i1") = some r ∧
    r.url.target = "/v1/invoices/i1" ∧
    ¬ r.url.NamesRow localBase .apiKeys "../invoices/i1" ∧
    r.url.NamesRow localBase .invoices "i1" := by
  have hsent : localClient.request? (.deleteOne .invoices "i1") =
      some ⟨.delete, Url.ofRow localBase .invoices "i1", none⟩ := by decide
  have hsame : Url.ofRow localBase .invoices "i1" =
      Url.ofRow localBase .apiKeys "../invoices/i1" := by decide
  refine ⟨_, ?_, hsent, by decide, ?_, namesRow_ofRow_iff.mpr (by decide)⟩
  · rw [← hsent]
    decide
  · show ¬ (Url.ofRow localBase .invoices "i1").NamesRow _ _ _
    rw [hsame, namesRow_ofRow_iff]
    decide

end WalletConsole.Remote
