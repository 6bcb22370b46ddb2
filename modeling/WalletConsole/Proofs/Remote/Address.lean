import Mathlib.Data.List.TakeWhile
import WalletConsole.Remote.Url

/-!
# Addresses below the address of a backend

The address of the backend and what is asked for there are put together as texts and read as one
URL. That a slash stands between them keeps them apart: neither the scheme nor the host depends on
what comes behind it, and the path goes on from the path of the backend.

* `splitWhere_append_cons`, `exists_lastPart` — parts of a text, from both ends
* `Url.pathBack`, `Url.queryBack` — what the back of a text says of path and query
* `Url.clean_append_slash`, `Url.scheme?_append_slash` — the address in front of the slash is
  cleaned and taken apart by itself
* `Url.parse?_below` — **what is read of a text below the address of a backend**
-/

namespace WalletConsole

/-! ## Parts of a text -/

namespace Text

variable {isSeparator : Char → Bool}

theorem splitWhere_ne_nil (s : List Char) : splitWhere isSeparator s ≠ [] := by
  cases s with
  | nil => exact List.cons_ne_nil _ _
  | cons c s =>
    unfold splitWhere
    split
    · exact List.cons_ne_nil _ _
    · split <;> exact List.cons_ne_nil _ _

/-- A text is cut at a separator, whatever stands on both sides of it. -/
theorem splitWhere_append_cons {c : Char} (hc : isSeparator c = true) (s rest : List Char) :
    splitWhere isSeparator (s ++ c :: rest) =
      splitWhere isSeparator s ++ splitWhere isSeparator rest := by
  induction s with
  | nil => simp [splitWhere, hc]
  | cons x s ih =>
    rw [List.cons_append, splitWhere, splitWhere, ih]
    split
    · rfl
    · cases hs : splitWhere isSeparator s with
      | nil => exact absurd hs (splitWhere_ne_nil s)
      | cons part parts => rfl

theorem splitWhere_cases (isSeparator : Char → Bool) (s : List Char) :
    (splitWhere isSeparator s = [s] ∧ ∀ c ∈ s, isSeparator c = false) ∨
      ∃ front c last, s = front ++ c :: last ∧
        splitWhere isSeparator s = splitWhere isSeparator front ++ [last] := by
  induction s with
  | nil => exact .inl ⟨rfl, by simp⟩
  | cons x s ih =>
    rcases ih with ⟨heq, hnone⟩ | ⟨front, c, last, rfl, heq⟩
    · cases hx : isSeparator x with
      | true => exact .inr ⟨[], x, s, rfl, by simp [splitWhere, hx, heq]⟩
      | false =>
        have hall : ∀ c ∈ x :: s, isSeparator c = false := List.forall_mem_cons.mpr ⟨hx, hnone⟩
        exact .inl ⟨splitWhere_of_noSeparator hall, hall⟩
    · refine .inr ⟨x :: front, c, last, rfl, ?_⟩
      rw [splitWhere, splitWhere, heq]
      split
      · rfl
      · cases hs : splitWhere isSeparator front with
        | nil => exact absurd hs (splitWhere_ne_nil front)
        | cons part parts => rfl

/-- The last part of a text is shorter than the text, unless the text has no separator. -/
theorem exists_lastPart (isSeparator : Char → Bool) (s : List Char) : ∃ parts last,
    splitWhere isSeparator s = parts ++ [last] ∧ last.length ≤ s.length ∧
      (last.length = s.length → ∀ c ∈ s, isSeparator c = false) := by
  rcases splitWhere_cases isSeparator s with ⟨heq, hnone⟩ | ⟨front, c, last, rfl, hparts⟩
  · exact ⟨[], s, heq, Nat.le_refl _, fun _ => hnone⟩
  · have hlength : (front ++ c :: last).length = front.length + (last.length + 1) := by simp
    exact ⟨_, last, hparts, by omega, fun heq => by omega⟩

end Text

namespace Remote.Url

open Text

/-! ## Cleaning -/

theorem dropWhile_append_cons {p : Char → Bool} {c : Char} (hc : p c = false)
    (s rest : List Char) : (s ++ c :: rest).dropWhile p = s.dropWhile p ++ c :: rest := by
  rw [List.dropWhile_append]
  split
  · rename_i hempty
    rw [List.isEmpty_iff.mp hempty, List.dropWhile_cons_of_neg (by simp [hc])]
    rfl
  · rfl

theorem takeWhile_append_cons {p : Char → Bool} {c : Char} (hc : p c = false)
    (s rest : List Char) : (s ++ c :: rest).takeWhile p = s.takeWhile p := by
  induction s with
  | nil => simp [hc]
  | cons x s ih =>
    rw [List.cons_append, List.takeWhile_cons, List.takeWhile_cons, ih]

/-- What is left of the front of a text. -/
def cleanFront (s : List Char) : List Char := (s.dropWhile isEdge).filter (!isDropped ·)

/-- What is left of the back of a text. -/
def cleanBack (s : List Char) : List Char :=
  (s.reverse.dropWhile isEdge).reverse.filter (!isDropped ·)

/-- A slash keeps front and back apart. -/
theorem clean_append_slash (front back : List Char) :
    clean (front ++ '/' :: back) = cleanFront front ++ '/' :: cleanBack back := by
  have hreverse : ((front.dropWhile isEdge) ++ '/' :: back).reverse =
      back.reverse ++ '/' :: (front.dropWhile isEdge).reverse := by simp
  unfold clean cleanFront cleanBack
  rw [dropWhile_append_cons (by decide), hreverse, dropWhile_append_cons (by decide)]
  simp [show isDropped '/' = false by decide]

theorem dropWhile_reverse_eq_iff {s : List Char} :
    s.reverse.dropWhile isEdge = s.reverse ↔ ∀ c ∈ s.getLast?, isEdge c = false := by
  rw [← List.head?_reverse]
  cases s.reverse with
  | nil => simp
  | cons c t =>
    constructor
    · intro heq x hx
      obtain rfl : c = x := by simpa using hx
      have hnot := List.head?_dropWhile_not isEdge (c :: t)
      rw [heq] at hnot
      simpa using hnot
    · intro hlast
      rw [List.dropWhile_cons_of_neg]
      simp [hlast c rfl]

theorem withoutEdge_sublist (s : List Char) : (s.reverse.dropWhile isEdge).reverse.Sublist s := by
  have hback := (List.dropWhile_sublist isEdge (l := s.reverse)).reverse
  rwa [List.reverse_reverse] at hback

/-- Nothing is lost at the back of a text exactly if nothing in it is dropped. -/
theorem cleanBack_eq_self_iff {s : List Char} : cleanBack s = s ↔
    (∀ c ∈ s, isDropped c = false) ∧ ∀ c ∈ s.getLast?, isEdge c = false := by
  rw [← dropWhile_reverse_eq_iff]
  constructor
  · intro heq
    have hkept : (cleanBack s).length ≤ (s.reverse.dropWhile isEdge).reverse.length :=
      List.filter_sublist.length_le
    rw [heq] at hkept
    have hall := (withoutEdge_sublist s).eq_of_length_le hkept
    rw [cleanBack, hall, List.filter_eq_self] at heq
    refine ⟨fun c hc => by simpa using heq c hc, ?_⟩
    rw [← List.reverse_reverse (s.reverse.dropWhile isEdge), hall]
  · rintro ⟨hdropped, hlast⟩
    unfold cleanBack
    rw [hlast, List.reverse_reverse, List.filter_eq_self]
    intro c hc
    simp [hdropped c hc]

/-! ## The end of a path -/

/-- What a text at the back of a URL is of its path. -/
def pathBack (s : List Char) : List Char := (cleanBack s).takeWhile (!endsPath ·)

/-- What a text at the back of a URL is of its query, if a query starts in it. -/
def queryBack (s : List Char) : Option (List Char) :=
  queryOf ((cleanBack s).dropWhile (!endsPath ·))

theorem pathBack_sublist (s : List Char) : (pathBack s).Sublist s :=
  (List.takeWhile_sublist _).trans (List.filter_sublist.trans (withoutEdge_sublist s))

/-- A text is part of the path as a whole exactly if nothing in it ends the path or is dropped. -/
theorem pathBack_eq_self_iff {s : List Char} : pathBack s = s ↔
    (∀ c ∈ s, endsPath c = false) ∧ (∀ c ∈ s, isDropped c = false) ∧
      ∀ c ∈ s.getLast?, isEdge c = false := by
  rw [← cleanBack_eq_self_iff]
  constructor
  · intro heq
    have hkept : (pathBack s).length ≤ (cleanBack s).length :=
      (List.takeWhile_sublist _).length_le
    rw [heq] at hkept
    have hclean : cleanBack s = s :=
      (List.filter_sublist.trans (withoutEdge_sublist s)).eq_of_length_le hkept
    rw [pathBack, hclean, List.takeWhile_eq_self_iff] at heq
    exact ⟨fun c hc => by simpa using heq c hc, hclean⟩
  · rintro ⟨hinside, hclean⟩
    rw [pathBack, hclean, List.takeWhile_eq_self_iff]
    intro c hc
    simp [hinside c hc]

theorem queryBack_of_pathBack {s : List Char} (h : pathBack s = s) : queryBack s = none := by
  obtain ⟨hinside, hclean⟩ := pathBack_eq_self_iff.mp h
  have hnone : s.dropWhile (!endsPath ·) = [] := by
    rw [List.dropWhile_eq_nil_iff]
    intro c hc
    simp [hinside c hc]
  rw [queryBack, cleanBack_eq_self_iff.mpr hclean, hnone]
  rfl

section

variable {s : List Char} (hs : ∀ c ∈ s, isDropped c = false ∧ endsPath c = false)
include hs

theorem cleanBack_append_slash (back : List Char) :
    cleanBack (s ++ '/' :: back) = s ++ '/' :: cleanBack back := by
  have hreverse : (s ++ '/' :: back).reverse = back.reverse ++ '/' :: s.reverse := by simp
  have hkept : s.filter (!isDropped ·) = s :=
    List.filter_eq_self.mpr fun c hc => by simp [(hs c hc).1]
  unfold cleanBack
  rw [hreverse, dropWhile_append_cons (by decide)]
  simp [hkept, show isDropped '/' = false by decide]

theorem pathBack_append_slash (back : List Char) :
    pathBack (s ++ '/' :: back) = s ++ '/' :: pathBack back := by
  have hinside : ∀ c ∈ s, (!endsPath c) = true := fun c hc => by simp [(hs c hc).2]
  rw [pathBack, cleanBack_append_slash hs, List.takeWhile_append_of_pos hinside,
    List.takeWhile_cons_of_pos (by decide)]
  rfl

theorem queryBack_append_slash (back : List Char) :
    queryBack (s ++ '/' :: back) = queryBack back := by
  have hinside : ∀ c ∈ s, (!endsPath c) = true := fun c hc => by simp [(hs c hc).2]
  rw [queryBack, cleanBack_append_slash hs, List.dropWhile_append_of_pos hinside,
    List.dropWhile_cons_of_pos (by decide)]
  rfl

end

/-! ## Schemes -/

theorem dropScheme?_append_slash {scheme : String} (hscheme : '/' ∉ scheme.toList)
    (s rest : List Char) :
    dropScheme? scheme (s ++ '/' :: rest) = (dropScheme? scheme s).map (· ++ '/' :: rest) := by
  unfold dropScheme?
  rcases Nat.lt_or_ge scheme.length s.length with hlong | hshort
  · have hle : scheme.length ≤ s.length := Nat.le_of_lt hlong
    have hhead : (s.drop scheme.length ++ '/' :: rest).head? = (s.drop scheme.length).head? := by
      cases hdrop : s.drop scheme.length with
      | nil =>
        rw [List.drop_eq_nil_iff] at hdrop
        omega
      | cons c s => rfl
    simp only [List.take_append_of_le_length hle, List.drop_append_of_le_length hle, hhead,
      List.drop_append_of_le_length (show scheme.length + 1 ≤ s.length from hlong)]
    split <;> rfl
  · -- the slash stands where the scheme or its colon should
    have hnone : (s.drop scheme.length).head? = none := by simp [List.drop_of_length_le hshort]
    rw [if_neg, if_neg (by simp [hnone])]
    · rfl
    intro hboth
    simp only [Bool.and_eq_true, decide_eq_true_eq] at hboth
    obtain ⟨hname, hcolon⟩ := hboth
    rcases Nat.lt_or_eq_of_le hshort with hlt | heq
    · refine hscheme ?_
      rw [← hname, List.mem_map]
      refine ⟨'/', ?_, by decide⟩
      obtain ⟨n, hn⟩ : ∃ n, scheme.length - s.length = n + 1 :=
        Nat.exists_eq_add_one.mpr (by omega)
      simp [List.take_append, hn]
    · simp [← heq] at hcolon

/-- The scheme does not depend on what stands behind a slash. -/
theorem scheme?_append_slash (s rest : List Char) :
    scheme? (s ++ '/' :: rest) = (scheme? s).map fun r => (r.1, r.2 ++ '/' :: rest) := by
  unfold scheme?
  rw [dropScheme?_append_slash (by decide), dropScheme?_append_slash (by decide)]
  cases dropScheme? "http" s <;> cases dropScheme? "https" s <;> rfl

/-! ## Paths -/

/-- Goes on from a path along segments of which none is the last. -/
def along (path : List (List Char)) (segments : List (List Char)) : List (List Char) :=
  segments.foldl (fun path s =>
    if isDoubleDot s then path.dropLast
    else if isSingleDot s then path
    else path ++ [percentEncode pathSet s]) path

theorem follow_append (path : List (List Char)) (segments : List (List Char)) (s : List Char)
    (rest : List (List Char)) :
    follow path (segments ++ s :: rest) = follow (along path segments) (s :: rest) := by
  induction segments generalizing path with
  | nil => rfl
  | cons x segments ih =>
    rw [List.cons_append, follow, along, List.foldl_cons]
    · split
      · exact ih path.dropLast
      split
      · exact ih path
      · exact ih _
    · simp

/-- Segments that are no dots, and need no encoding, are added to a path as they are. -/
theorem along_of_plain {segments : List (List Char)}
    (h : ∀ s ∈ segments, isDoubleDot s = false ∧ isSingleDot s = false ∧
      percentEncode pathSet s = s) (path : List (List Char)) :
    along path segments = path ++ segments := by
  induction segments generalizing path with
  | nil => simp [along]
  | cons s segments ih =>
    obtain ⟨hdouble, hsingle, hencode⟩ := h s List.mem_cons_self
    have hrest := ih (fun x hx => h x (List.mem_cons_of_mem s hx)) (path ++ [s])
    rw [along, List.foldl_cons, if_neg (by simp [hdouble]), if_neg (by simp [hsingle]), hencode]
    show along (path ++ [s]) segments = _
    rw [hrest, List.append_assoc]
    rfl

/-- Where a path ends that goes on along some segments. -/
theorem follow_concat (path segments : List (List Char)) (s : List Char) :
    (∃ front, follow path (segments ++ [s]) = front ++ [[]] ∧
      (isDoubleDot s = true ∨ isSingleDot s = true)) ∨
    ∃ front, follow path (segments ++ [s]) = front ++ [percentEncode pathSet s] ∧
      isDoubleDot s = false ∧ isSingleDot s = false := by
  rw [follow_append, follow]
  cases hdouble : isDoubleDot s with
  | true => exact .inl ⟨_, rfl, .inl rfl⟩
  | false =>
    cases hsingle : isSingleDot s with
    | true => exact .inl ⟨_, rfl, .inr rfl⟩
    | false => exact .inr ⟨_, rfl, rfl, rfl⟩

/-- A path goes on behind a slash. -/
theorem exists_pathOf_append_slash {s : List Char} (hs : ∀ c ∈ s.head?, isSlash c = true) :
    ∃ folder, ∀ rest, pathOf (s ++ '/' :: rest) = follow folder (splitWhere isSlash rest) := by
  cases s with
  | nil => exact ⟨[], fun rest => rfl⟩
  | cons c s =>
    refine ⟨along [] (splitWhere isSlash s), fun rest => ?_⟩
    obtain ⟨part, parts, hparts⟩ := List.exists_cons_of_ne_nil (splitWhere_ne_nil rest)
    show follow [] (splitWhere isSlash (s ++ '/' :: rest)) = _
    rw [splitWhere_append_cons (by decide), hparts]
    exact follow_append [] _ part parts

/-! ## Below an address -/

/-- What is read behind the scheme: a host, and a path that goes on behind a slash. -/
theorem exists_afterScheme {s : List Char} (hhost : (s.dropWhile isSlash) ≠ [])
    (hpath : ∀ c ∈ s, endsPath c = false) : ∃ folder, ∀ back,
      let after := (s ++ '/' :: cleanBack back).dropWhile isSlash
      after.takeWhile (!endsAuthority ·) = (s.dropWhile isSlash).takeWhile (!endsAuthority ·) ∧
      pathOf ((after.dropWhile (!endsAuthority ·)).takeWhile (!endsPath ·)) =
        follow folder (splitWhere isSlash (pathBack back)) ∧
      queryOf ((after.dropWhile (!endsAuthority ·)).dropWhile (!endsPath ·)) =
        queryBack back := by
  -- what stands between the host and the slash is part of the path
  obtain ⟨start, hstart⟩ :
    ∃ start, start = (s.dropWhile isSlash).dropWhile (!endsAuthority ·) := ⟨_, rfl⟩
  have hin : ∀ c ∈ start, (!endsPath c) = true := by
    intro c hc
    rw [hstart] at hc
    have hc' : c ∈ s := List.dropWhile_subset _ (List.dropWhile_subset _ hc)
    simp [hpath c hc']
  have hslash : ∀ c ∈ start.head?, isSlash c = true := by
    intro c hc
    have hends : endsAuthority c = true := by
      have hnot := List.head?_dropWhile_not (!endsAuthority ·) (s.dropWhile isSlash)
      rw [← hstart, Option.mem_def.mp hc] at hnot
      simpa using hnot
    have hpart : endsPath c = false := by simpa using hin c (List.mem_of_mem_head? hc)
    simp only [endsPath, Bool.or_eq_false_iff] at hpart
    simpa [endsAuthority, hpart.1, hpart.2] using hends
  obtain ⟨folder, hfolder⟩ := exists_pathOf_append_slash hslash
  refine ⟨folder, fun back => ?_⟩
  intro after
  have hafter : after = s.dropWhile isSlash ++ '/' :: cleanBack back := by
    show (s ++ '/' :: cleanBack back).dropWhile isSlash = _
    rw [List.dropWhile_append, if_neg (by simpa using hhost)]
  have hbehind : after.dropWhile (!endsAuthority ·) = start ++ '/' :: cleanBack back := by
    rw [hafter, dropWhile_append_cons (by decide), ← hstart]
  refine ⟨?_, ?_, ?_⟩
  · rw [hafter, takeWhile_append_cons (by decide)]
  · rw [hbehind, List.takeWhile_append_of_pos hin, List.takeWhile_cons_of_pos (by decide)]
    exact hfolder _
  · rw [hbehind, List.dropWhile_append_of_pos hin, List.dropWhile_cons_of_pos (by decide)]
    rfl

theorem dropScheme?_suffix {scheme : String} {s rest : List Char}
    (h : dropScheme? scheme s = some rest) : rest <:+ s := by
  unfold dropScheme? at h
  dsimp only at h
  split at h
  · cases h
    exact List.drop_suffix _ _
  · cases h

theorem scheme?_suffix {s rest : List Char} {scheme : String}
    (h : scheme? s = some (scheme, rest)) : rest <:+ s := by
  unfold scheme? at h
  split at h
  · rename_i hdrop
    cases h
    exact dropScheme?_suffix hdrop
  · rename_i hdrop
    cases h
    exact dropScheme?_suffix hdrop
  · cases h

/-- **A text below the address of a backend** is read as a URL with its scheme and host, and a path
that goes on from its path. -/
theorem parse?_below {address : List Char} {u : Url} (hu : parse? (address ++ ['/']) = some u)
    (hpath : ∀ c ∈ address, endsPath c = false) (back : List Char) :
    parse? (address ++ '/' :: back) = some
      { u with
        path := follow u.path.dropLast (splitWhere isSlash (pathBack back))
        query := queryBack back } := by
  unfold parse? at hu ⊢
  rw [clean_append_slash, scheme?_append_slash] at hu ⊢
  cases hscheme : scheme? (cleanFront address) with
  | none => simp [hscheme] at hu
  | some r =>
    obtain ⟨scheme, s⟩ := r
    have hs : ∀ c ∈ s, endsPath c = false := by
      intro c hc
      have hfront : c ∈ cleanFront address := (scheme?_suffix hscheme).subset hc
      exact hpath c (List.dropWhile_subset _ (List.mem_filter.mp hfront).1)
    simp only [hscheme, Option.map_some, bind, Option.bind_some] at hu ⊢
    by_cases hhost : s.dropWhile isSlash = []
    · -- behind nothing but slashes stands no host
      have hnone : (s ++ '/' :: cleanBack []).dropWhile isSlash = [] := by
        rw [List.dropWhile_append, hhost]
        rfl
      simp [hnone] at hu
    · obtain ⟨folder, hfolder⟩ := exists_afterScheme hhost hs
      have hhere := hfolder []
      have hbelow := hfolder back
      simp only at hhere hbelow
      simp only [hhere] at hu
      simp only [hbelow]
      split at hu
      · cases hu
      · rename_i hauthority
        cases hu
        have hfolder : (follow folder (splitWhere isSlash (pathBack []))).dropLast = folder := by
          show (folder ++ [[]]).dropLast = folder
          exact List.dropLast_concat
        rw [if_neg hauthority, hfolder]
        rfl

end Remote.Url

end WalletConsole
