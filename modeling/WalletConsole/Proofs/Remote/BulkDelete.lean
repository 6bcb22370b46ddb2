import WalletConsole.Proofs.Remote.Form
import WalletConsole.Proofs.Remote.SingleDelete

/-!
# The query of a bulk delete

To delete several rows, their identifiers are put into the query, one pair for each. Unlike the path
of a single delete, a query is encoded as a whole, so every identifier arrives as it is, wherever
its characters would have led on their own.

* `Url.Encoded` — no part of a URL holds a character that ends it
* `Url.parse_addQuery` — pairs that are added to a query are read behind those that were there
* `Url.Encoded.received` — whoever receives the request line finds path and query in it
* `Request.NamesRows` — a request names some rows in its query, and nowhere else
* `bulk_delete_names_rows` — **a bulk delete names its rows, whatever their identifiers are**
-/

namespace WalletConsole.Remote

open Text

/-! ## Encoded parts -/

/-- Nothing that is to be encoded is left, unless escapes hold it. -/
theorem not_mem_set_of_mem_percentEncode {inSet : Char → Bool} (hpercent : inSet '%' = false)
    (hdigit : ∀ n < 16, inSet (upperHexDigit n) = false) {s : List Char} :
    ∀ c ∈ percentEncode inSet s, inSet c = false := by
  intro c hc
  obtain ⟨x, -, hx⟩ := List.mem_flatMap.mp hc
  split at hx
  · exact forall_mem_byteTexts (p := (inSet · = false)) hpercent hdigit _ c hx
  · next hset =>
    obtain rfl := List.mem_singleton.mp hx
    simpa using hset

namespace Url

/-- No part of a URL holds a character that ends it. -/
structure Encoded (u : Url) : Prop where
  path : ∀ s ∈ u.path, ∀ c ∈ s, pathSet c = false
  query : ∀ q ∈ u.query, ∀ c ∈ q, querySet c = false

/-- What holds of every segment that is encoded holds of every segment of a path. -/
theorem forall_mem_follow {p : List Char → Prop} (hnil : p [])
    (hencode : ∀ s, p (percentEncode pathSet s)) {path segments : List (List Char)}
    (h : ∀ s ∈ path, p s) : ∀ s ∈ follow path segments, p s := by
  have hback : ∀ {path : List (List Char)}, (∀ s ∈ path, p s) → ∀ s ∈ path.dropLast, p s :=
    fun hpath s hs => hpath s (List.dropLast_subset _ hs)
  have hadd : ∀ {path : List (List Char)} {x : List Char}, (∀ s ∈ path, p s) → p x →
      ∀ s ∈ path ++ [x], p s :=
    fun hpath hx => List.forall_mem_append.mpr ⟨hpath, List.forall_mem_singleton.mpr hx⟩
  fun_induction follow path segments with
  | case1 path => exact h
  | case2 path s hdouble => exact hadd (hback h) hnil
  | case3 path s hdouble hsingle => exact hadd h hnil
  | case4 path s hdouble hsingle => exact hadd h (hencode s)
  | case5 path s rest _ hdouble ih => exact ih (hback h)
  | case6 path s rest _ hdouble hsingle ih => exact ih h
  | case7 path s rest _ hdouble hsingle ih => exact ih (hadd h (hencode s))

theorem encoded_queryOf (s : List Char) : ∀ q ∈ queryOf s, ∀ c ∈ q, querySet c = false := by
  intro q hq
  unfold queryOf at hq
  split at hq
  · obtain rfl := Option.some.inj hq
    exact not_mem_set_of_mem_percentEncode (by decide) (by decide)
  · cases hq

theorem clean_subset (s : List Char) : clean s ⊆ s := by
  intro c hc
  have hback := List.dropWhile_subset _ (List.mem_reverse.mp (List.mem_filter.mp hc).1)
  exact List.dropWhile_subset _ (List.mem_reverse.mp hback)

theorem encoded_of_parse? {s : List Char} {u : Url} (h : parse? s = some u) : u.Encoded := by
  unfold parse? at h
  cases hscheme : scheme? (clean s) with
  | none => simp [hscheme] at h
  | some r =>
    simp only [hscheme, bind, Option.bind_some] at h
    split at h
    · cases h
    · cases h
      exact ⟨forall_mem_follow (by simp)
        (fun s => not_mem_set_of_mem_percentEncode (by decide) (by decide)) (by simp),
        encoded_queryOf _⟩

/-- Without a question mark there is no query. -/
theorem query_of_parse? {s : List Char} {u : Url} (h : parse? s = some u)
    (hpath : ∀ c ∈ s, endsPath c = false) : u.query = none := by
  unfold parse? at h
  cases hscheme : scheme? (clean s) with
  | none => simp [hscheme] at h
  | some r =>
    obtain ⟨scheme, rest⟩ := r
    simp only [hscheme, bind, Option.bind_some] at h
    split at h
    · cases h
    · cases h
      have hrest : rest ⊆ s := fun c hc => clean_subset s ((scheme?_suffix hscheme).subset hc)
      have hnone : ((rest.dropWhile isSlash).dropWhile (!endsAuthority ·)).dropWhile
          (!endsPath ·) = [] := by
        rw [List.dropWhile_eq_nil_iff]
        intro c hc
        have hc' : c ∈ s := hrest (List.dropWhile_subset _ (List.dropWhile_subset _ hc))
        simp [hpath c hc']
      show queryOf _ = none
      rw [hnone]
      rfl

/-! ## Pairs that are added to a query -/

/-- The query of a URL; without one, it is empty. -/
def queryText (u : Url) : List Char := u.query.getD []

section

variable (u : Url) (pairs : List (String × String))

theorem queryText_addQuery : (u.addQuery pairs).queryText =
    if u.queryText.isEmpty then Form.serialize pairs
    else if pairs.isEmpty then u.queryText
    else u.queryText ++ '&' :: Form.serialize pairs := by
  have hgetD : ∀ query : List Char,
      (if query.isEmpty then none else some query).getD [] = query := by
    intro query
    cases query <;> rfl
  exact hgetD _

/-- Pairs that are added to a query are read behind those that were there. -/
theorem parse_addQuery : Form.parse (u.addQuery pairs).queryText =
    Form.parse u.queryText ++ pairs := by
  rw [queryText_addQuery]
  split
  · next hnone =>
    rw [List.isEmpty_iff.mp hnone, Form.parse_serialize]
    rfl
  · split
    · next hnone => rw [List.isEmpty_iff.mp hnone, List.append_nil]
    · rw [Form.parse_append, Form.parse_serialize]

/-- What is added to a query needs no more encoding. -/
theorem not_querySet_of_mem_addQuery (h : ∀ c ∈ u.queryText, querySet c = false) :
    ∀ c ∈ (u.addQuery pairs).queryText, querySet c = false := by
  have hadded : ∀ c ∈ Form.serialize pairs, querySet c = false :=
    Form.not_querySet_of_mem_serialize
  rw [queryText_addQuery]
  split
  · exact hadded
  · split
    · exact h
    · exact List.forall_mem_append.mpr ⟨h, List.forall_mem_cons.mpr ⟨by decide, hadded⟩⟩

end

end Url

/-! ## The request line -/

/-- The path that a request line asks for. -/
def targetPath (target : String) : List Char := target.toList.takeWhile (· ≠ '?')

/-- The query of a request line. -/
def targetQuery (target : String) : List Char := (target.toList.dropWhile (· ≠ '?')).drop 1

/-- Path and query are found in the request line again. -/
theorem Url.Encoded.received {u : Url} (h : u.Encoded) :
    targetPath u.target = u.pathText ∧ targetQuery u.target = u.queryText := by
  have hpath : ∀ c ∈ u.pathText, decide (c ≠ '?') = true := by
    intro c hc
    obtain ⟨s, hs, hc⟩ := List.mem_flatMap.mp hc
    rw [decide_eq_true_eq]
    rintro rfl
    rcases List.mem_cons.mp hc with heq | hmem
    · cases heq
    · exact absurd (h.path s hs _ hmem) (by decide)
  unfold targetPath targetQuery Url.target Url.queryText
  rw [String.toList_ofList, List.takeWhile_append_of_pos hpath, List.dropWhile_append_of_pos hpath]
  cases u.query <;> simp

/-! ## The rows of a bulk delete -/

/--
A request asks for some rows to be deleted that are kept at an address: its query names them, and
nothing else does.
-/
structure Request.NamesRows (r : Request) (address : Url) (ids : List String) : Prop where
  isDelete : r.method = .delete
  /-- but for its query, the URL is the address -/
  elsewhere : { r.url with query := address.query } = address
  /-- there is one pair for each row, in order, behind what the address asks for by itself -/
  pairs : Form.parse r.url.queryText =
    Form.parse address.queryText ++ ids.map fun id => ("ids", id)
  /-- path and query are found in the request line again -/
  received : targetPath r.url.target = address.pathText ∧
    targetQuery r.url.target = r.url.queryText
  /-- nothing in the query ends it, or the request line -/
  encoded : ∀ c ∈ r.url.queryText, querySet c = false

theorem Request.namesRows_addQuery {address : Url} (h : address.Encoded) (ids : List String)
    (authorization : Option String) :
    Request.NamesRows ⟨.delete, address.addQuery (RowIds.mk ids).queryPairs, authorization⟩
      address ids := by
  have hquery : ∀ c ∈ address.queryText, querySet c = false := by
    unfold Url.queryText
    cases hq : address.query with
    | none => simp
    | some q => exact h.query q hq
  have hadded := address.not_querySet_of_mem_addQuery (RowIds.mk ids).queryPairs hquery
  refine ⟨rfl, rfl, address.parse_addQuery _, ?_, hadded⟩
  refine Url.Encoded.received ⟨h.path, fun q hq => ?_⟩
  unfold Url.queryText at hadded
  rwa [Option.mem_def.mp hq] at hadded

/--
**A bulk delete names its rows, whatever their identifiers are.** It is one request, to where the
collection is kept; its query is read as one pair for each identifier, in order, and no part of an
identifier is found anywhere else.
-/
theorem bulk_delete_names_rows (c : Client) (rows : Collection) (address : Url)
    (haddress : Url.parse? (c.baseUrl ++ rows.path).toList = some address)
    (htoken : ∀ token ∈ c.token, token.toList.all isHeaderChar = true) (ids : List String) :
    ∃ r : Request, (∀ exchange, (c.run exchange (.deleteMany rows ids)).2 = [r]) ∧
      r.NamesRows address ids ∧ r.authorization = c.token.map ("Bearer " ++ ·) ∧
      ((∀ ch ∈ c.baseUrl.toList, Url.endsPath ch = false) →
        Form.parse r.url.queryText = ids.map fun id => ("ids", id)) := by
  have hnames := Request.namesRows_addQuery (Url.encoded_of_parse? haddress) ids
    (c.token.map ("Bearer " ++ ·))
  refine ⟨_, fun exchange => ?_, hnames, rfl, fun hbase => ?_⟩
  · have hrequest : c.request? (.deleteMany rows ids) = some _ :=
      Client.request?_eq_some_iff.mpr ⟨address, haddress, htoken, rfl⟩
    rw [Client.run_requests, hrequest]
    rfl
  · have hpath : ∀ ch ∈ (c.baseUrl ++ rows.path).toList, Url.endsPath ch = false := by
      rw [String.toList_append, rows.path_toList]
      exact List.forall_mem_append.mpr
        ⟨hbase, List.forall_mem_cons.mpr ⟨by decide, fun ch hch => (rows.path_chars ch hch).2⟩⟩
    have hquery : address.query = none := Url.query_of_parse? haddress hpath
    rw [hnames.pairs, Url.queryText, hquery]
    rfl

/-- Identifiers that are hard to keep apart: one of them is empty, and one is given twice. -/
def oddIds : List String := ["a&ids=b", "c=d+e %26#", "", "\t\u00e9?", "a&ids=b"]

/-- Where a backend on the same machine keeps its payments. -/
def localPayments : Url := ⟨"http", "localhost:3000".toList, ["v1".toList, "payments".toList], none⟩

theorem bulk_delete_names_odd_rows :
    Url.parse? (localClient.baseUrl ++ Collection.payments.path).toList = some localPayments ∧
      ∃ r : Request, (∀ exchange, (localClient.run exchange (.deleteMany .payments oddIds)).2 = [r]) ∧
        targetPath r.url.target = "/v1/payments".toList ∧
        Form.parse (targetQuery r.url.target) =
          [("ids", "a&ids=b"), ("ids", "c=d+e %26#"), ("ids", ""), ("ids", "\t\u00e9?"),
            ("ids", "a&ids=b")] := by
  have haddress : Url.parse? (localClient.baseUrl ++ Collection.payments.path).toList =
      some localPayments := by decide
  obtain ⟨r, hsent, hnames, -, hpairs⟩ := bulk_delete_names_rows localClient .payments localPayments
    haddress (fun token htoken => (Option.not_mem_none token htoken).elim) oddIds
  refine ⟨haddress, r, hsent, hnames.received.1.trans (by decide), ?_⟩
  rw [hnames.received.2, hpairs hasAddress_localClient.isPath]
  rfl

end WalletConsole.Remote
