/-
# Headers that are accepted

What a signature header says is a matter of its fields: the timestamp is the last `t` field,
every `t` field has to be an integer, and each `v1` field is a signature (`parseHeader_ok_iff`).
What is signed determines the timestamp and the body, since a printed timestamp has no dot in
it (`framed_injective`).  The main results are

* `signature_bound`: a header that `sign` has made is accepted exactly within the tolerance,
  and an accepted header carries a signature of this body and its timestamp and of no other;
* `verify_documented_iff`: `verify` raises nothing but the two errors that it documents, exactly
  if it does not come to a signature with a character outside ASCII.
-/
import Mathlib.Logic.Equiv.List
import PaymentGateway.Core.JsonText
import PaymentGateway.Security.Signatures

namespace PaymentGateway

namespace Signatures

/-! ## The fields of a header -/

/-- Key and value of each part of the header, between its commas. -/
def headerFields (header : String) : List (String × String) :=
  (header.toList.splitOn ',').map fun part => partitionEq (strip part)

/-- What `int` makes of the `t` fields, in their order; a field that it cannot read stands as
none. -/
def timestamps (fields : List (String × String)) : List (Option ℤ) :=
  (fields.filter fun f => f.1 = "t").map fun f => intOfText f.2

/-- The `v1` fields: the signatures that the header offers. -/
def candidates (fields : List (String × String)) : List String :=
  (fields.filter fun f => f.1 = "v1").map Prod.snd

/-- The header is well formed, and this is its timestamp: the last one counts, and none may be
unreadable. -/
def Timestamped (header : String) (ts : ℤ) : Prop :=
  none ∉ timestamps (headerFields header) ∧
    (timestamps (headerFields header)).getLast? = some (some ts) ∧
    candidates (headerFields header) ≠ []

lemma timestamps_cons (f : String × String) (fields : List (String × String)) :
    timestamps (f :: fields) =
      if f.1 = "t" then intOfText f.2 :: timestamps fields else timestamps fields := by
  rw [timestamps, List.filter_cons]
  by_cases hkey : f.1 = "t"
  · rw [if_pos (decide_eq_true hkey), if_pos hkey]
    rfl
  · rw [if_neg (by simpa using hkey), if_neg hkey]
    rfl

lemma candidates_cons (f : String × String) (fields : List (String × String)) :
    candidates (f :: fields) =
      if f.1 = "v1" then f.2 :: candidates fields else candidates fields := by
  rw [candidates, List.filter_cons]
  by_cases hkey : f.1 = "v1"
  · rw [if_pos (decide_eq_true hkey), if_pos hkey]
    rfl
  · rw [if_neg (by simpa using hkey), if_neg hkey]
    rfl

/-- The loop of `_parse_header`. -/
lemma foldlM_parsePart (parts : List (List Char)) (acc : Option ℤ × List String) :
    parts.foldlM parsePart acc =
      let fields := parts.map fun part => partitionEq (strip part)
      if none ∈ timestamps fields then .error malformedTimestamp
      else .ok ((timestamps fields).getLast?.getD acc.1, acc.2 ++ candidates fields) := by
  induction parts generalizing acc with
  | nil => simp [timestamps, candidates, pure, Except.pure]
  | cons part parts ih =>
    dsimp only
    rw [List.foldlM_cons, List.map_cons, timestamps_cons, candidates_cons, parsePart]
    by_cases htime : (partitionEq (strip part)).1 = "t"
    · have hkey : (partitionEq (strip part)).1 ≠ "v1" := by
        rw [htime]
        decide
      rw [if_pos htime, if_neg hkey]
      dsimp only
      rw [if_pos htime]
      cases hint : intOfText (partitionEq (strip part)).2 with
      | none =>
        -- the loop ends at the first `t` field that is no integer
        rw [if_pos List.mem_cons_self]
        rfl
      | some ts =>
        -- a later `t` field takes the place of an earlier one
        have hmem : none ∈ some ts :: timestamps (parts.map fun part => partitionEq (strip part)) ↔
            none ∈ timestamps (parts.map fun part => partitionEq (strip part)) := by simp
        show parts.foldlM parsePart (some ts, acc.2) = _
        rw [ih, List.getLast?_cons, Option.getD_some]
        simp only [hmem]
    · rw [if_neg htime]
      dsimp only
      rw [if_neg htime]
      by_cases hsignature : (partitionEq (strip part)).1 = "v1"
      · rw [if_pos hsignature, if_pos hsignature]
        show parts.foldlM parsePart (acc.1, acc.2 ++ [(partitionEq (strip part)).2]) = _
        rw [ih]
        dsimp only
        rw [List.append_assoc, List.singleton_append]
      · rw [if_neg hsignature, if_neg hsignature]
        show parts.foldlM parsePart acc = _
        rw [ih]

/-- **What a header says.** -/
lemma parseHeader_eq (header : String) :
    parseHeader header =
      if none ∈ timestamps (headerFields header) then .error malformedTimestamp
      else
        match (timestamps (headerFields header)).getLast?.getD none,
          candidates (headerFields header) with
        | some ts, s :: signatures => .ok (ts, s :: signatures)
        | _, _ => .error missingParts := by
  rw [parseHeader, foldlM_parsePart]
  dsimp only
  rw [← headerFields]
  by_cases hnone : none ∈ timestamps (headerFields header)
  · rw [if_pos hnone, if_pos hnone]
    rfl
  · rw [if_neg hnone, if_neg hnone, List.nil_append]
    rcases (timestamps (headerFields header)).getLast?.getD none with _ | ts
    · rfl
    · cases candidates (headerFields header) <;> rfl

lemma parseHeader_ok_iff {header : String} {ts : ℤ} {signatures : List String} :
    parseHeader header = .ok (ts, signatures) ↔
      Timestamped header ts ∧ signatures = candidates (headerFields header) := by
  rw [parseHeader_eq, Timestamped]
  constructor
  · intro h
    split at h
    · cases h
    · rename_i hnone
      split at h
      · rename_i ts' s signatures' hlast hcandidates
        cases h
        refine ⟨⟨hnone, ?_, by rw [hcandidates]; exact List.cons_ne_nil _ _⟩, hcandidates.symm⟩
        cases hcase : (timestamps (headerFields header)).getLast? with
        | none =>
          rw [hcase] at hlast
          cases hlast
        | some last =>
          rw [hcase] at hlast
          exact congrArg some hlast
      · cases h
  · rintro ⟨⟨hnone, hlast, hne⟩, rfl⟩
    rw [if_neg hnone, hlast]
    cases hcandidates : candidates (headerFields header) with
    | nil => exact absurd hcandidates hne
    | cons s signatures => rfl

lemma parseHeader_error {header : String} {e : Exn} (h : parseHeader header = .error e) :
    e = malformedTimestamp ∨ e = missingParts := by
  rw [parseHeader_eq] at h
  split at h
  · exact Or.inl (Except.error.inj h).symm
  · split at h
    · cases h
    · exact Or.inr (Except.error.inj h).symm

/-! ## What is signed -/

/-- `f"{timestamp}.".encode() + body` -/
def framed (ts : ℤ) (body : Bytes) : Bytes := utf8 (toString ts ++ ".") ++ body

lemma utf8_injective {s s' : String} (h : utf8 s = utf8 s') : s = s' := by
  refine String.toByteArray_inj.1 (ByteArray.ext (Array.toList_inj.1 ?_))
  exact h

/-- Of two texts of which one begins as bytes like the other, so it does as characters. -/
lemma isPrefix_of_utf8 {s s' : String} {rest : Bytes} (h : utf8 s' = utf8 s ++ rest) :
    s.toList <+: s'.toList := by
  refine List.isPrefix_of_utf8Encode_append_eq_utf8Encode ⟨rest.toArray⟩ ?_
  rw [String.utf8Encode_toList, String.utf8Encode_toList]
  refine ByteArray.ext (Array.toList_inj.1 ?_)
  rw [ByteArray.data_append, Array.toList_append]
  exact h.symm

/-- A printed timestamp ends at the first dot. -/
lemma eq_of_isPrefix {m n : ℤ} (h : (toString m ++ ".").toList <+: (toString n ++ ".").toList) :
    m = n := by
  have hdot : ∀ rest, ∀ c ∈ (".".toList ++ rest).head?, isNumeral c = false := by
    intro rest c hc
    cases hc
    rfl
  obtain ⟨rest, hrest⟩ := h
  rw [String.toList_append, String.toList_append, List.append_assoc] at hrest
  obtain ⟨htext, -⟩ := Json.append_inj_of_all isNumeral_of_mem isNumeral_of_mem (hdot rest)
    (hdot []) hrest
  exact toString_int_injective (String.toList_inj.1 htext)

/-- **What is signed** determines the timestamp and the body. -/
lemma framed_injective {ts ts' : ℤ} {body body' : Bytes} (h : framed ts body = framed ts' body') :
    ts = ts' ∧ body = body' := by
  have heq : ts = ts' := by
    rcases List.append_eq_append_iff.1 h with ⟨rest, hrest, -⟩ | ⟨rest, hrest, -⟩
    · exact eq_of_isPrefix (isPrefix_of_utf8 hrest)
    · exact (eq_of_isPrefix (isPrefix_of_utf8 hrest)).symm
  subst heq
  exact ⟨rfl, List.append_cancel_left h⟩

/-! ## Signatures -/

/-- The letters of `hexdigest()`. -/
def isHex (c : Char) : Bool := c.isDigit || (97 ≤ c.toNat && c.toNat ≤ 102)

/-- All characters are ASCII, as `compare_digest` asks for. -/
def isAsciiText (s : String) : Bool := s.toList.all (·.toNat < 128)

lemma isHex_toNat {c : Char} (h : isHex c = true) :
    48 ≤ c.toNat ∧ c.toNat ≤ 57 ∨ 97 ≤ c.toNat ∧ c.toNat ≤ 102 := by
  rw [isHex, Bool.or_eq_true, Char.isDigit_iff_toNat, Bool.and_eq_true, decide_eq_true_eq,
    decide_eq_true_eq] at h
  exact h

lemma isAsciiText_of_isHex {s : String} (h : ∀ c ∈ s.toList, isHex c = true) :
    isAsciiText s = true := by
  refine List.all_eq_true.2 fun c hc => decide_eq_true ?_
  have hcode := isHex_toNat (h c hc)
  omega

/-- A digest is compared with a signature. -/
lemma compareDigest_eq {digest : String} (h : isAsciiText digest = true) (s : String) :
    compareDigest digest s =
      if isAsciiText s = true then .ok (decide (digest = s)) else .error (.python .typeError) := by
  rw [compareDigest]
  rw [isAsciiText] at h
  rw [h, Bool.true_and, isAsciiText]

/-- Before the digest, or without it, comes a signature with a character outside ASCII. -/
def Stumbles (digest : String) (l : List String) : Prop :=
  ∃ before s after, l = before ++ s :: after ∧ isAsciiText s = false ∧ digest ∉ before

lemma not_stumbles_nil (digest : String) : ¬ Stumbles digest [] := by
  rintro ⟨before, s, after, heq, -⟩
  simp at heq

lemma stumbles_cons {digest : String} (s : String) (l : List String) :
    Stumbles digest (s :: l) ↔ isAsciiText s = false ∨ digest ≠ s ∧ Stumbles digest l := by
  constructor
  · rintro ⟨before, s', after, heq, hs', hdigest⟩
    cases before with
    | nil =>
      obtain ⟨rfl, -⟩ := List.cons.inj heq
      exact Or.inl hs'
    | cons b before =>
      obtain ⟨rfl, rfl⟩ := List.cons.inj heq
      obtain ⟨hne, hrest⟩ := not_or.1 (mt List.mem_cons.2 hdigest)
      exact Or.inr ⟨hne, before, s', after, rfl, hs', hrest⟩
  · rintro (hs | ⟨hne, before, s', after, rfl, hs', hdigest⟩)
    · exact ⟨[], s, l, rfl, hs, List.not_mem_nil⟩
    · exact ⟨s :: before, s', after, rfl, hs', fun hmem =>
        (List.mem_cons.1 hmem).elim hne hdigest⟩

/-- The digest is compared with one signature after the other, up to the first that is equal. -/
lemma anyM_compareDigest {digest : String} (h : isAsciiText digest = true) (l : List String) :
    (Stumbles digest l → l.anyM (compareDigest digest) = .error (.python .typeError)) ∧
      (¬ Stumbles digest l → l.anyM (compareDigest digest) = .ok (decide (digest ∈ l))) := by
  induction l with
  | nil => exact ⟨fun hno => absurd hno (not_stumbles_nil digest), fun _ => rfl⟩
  | cons s l ih =>
    have hstep : (s :: l).anyM (compareDigest digest) =
        (compareDigest digest s).bind fun found =>
          if found = true then .ok true else l.anyM (compareDigest digest) := by
      rw [List.anyM]
      rcases compareDigest digest s with e | _ | _ <;> rfl
    rw [stumbles_cons, hstep, compareDigest_eq h]
    by_cases hascii : isAsciiText s = true
    · -- the comparison ends, and the rest is looked at only if it failed
      rw [if_pos hascii]
      show (_ → (if decide (digest = s) = true then _ else _) = _) ∧
        (_ → (if decide (digest = s) = true then _ else _) = _)
      by_cases heq : digest = s
      · simp [heq, hascii]
      · have hmem : digest ∈ s :: l ↔ digest ∈ l := by simp [heq]
        rw [if_neg (by simpa using heq)]
        simp only [hmem, hascii, Bool.true_eq_false, false_or, ne_eq, heq, not_false_eq_true,
          true_and]
        exact ih
    · rw [if_neg hascii]
      refine ⟨fun _ => rfl, fun hno => absurd (Or.inl ?_) hno⟩
      simpa using hascii

/-! ## Verification -/

section Verify

variable {hmac : Bytes → Bytes → String} {body : Bytes} {header : String} {secret : Json}
  {tolerance now ts : ℤ}

/-- A timestamp that was read can be printed. -/
lemma Timestamped.natAbs_lt (h : Timestamped header ts) : ts.natAbs < 10 ^ maxStrDigits := by
  obtain ⟨f, -, hf⟩ := List.mem_map.1 (List.mem_of_getLast? h.2.1)
  exact intOfText_lt hf

lemma strOfInt_of_lt (h : ts.natAbs < 10 ^ maxStrDigits) : strOfInt ts = .ok (toString ts) :=
  if_neg (not_le.2 h)

lemma compute_str (h : ts.natAbs < 10 ^ maxStrDigits) (text : String) :
    compute hmac (.str text) ts body = .ok (hmac (utf8 text) (framed ts body)) := by
  rw [compute, strOfInt_of_lt h]
  rfl

/-- A header that does not parse. -/
lemma verify_of_error {e : Exn} (h : parseHeader header = .error e) :
    verify hmac body header secret tolerance now = .error e := by
  rw [verify, h]
  rfl

/-- A header whose timestamp is not within the tolerance. -/
lemma verify_late (h : Timestamped header ts) (hlate : tolerance < |now - ts|) :
    verify hmac body header secret tolerance now = .error (outsideTolerance tolerance) := by
  rw [verify, parseHeader_ok_iff.2 ⟨h, rfl⟩]
  exact if_pos hlate

/-- A header whose timestamp is, with a secret that is a string. -/
lemma verify_within (hascii : ∀ key message, isAsciiText (hmac key message) = true)
    (h : Timestamped header ts) (hwithin : |now - ts| ≤ tolerance) (text : String) :
    (Stumbles (hmac (utf8 text) (framed ts body)) (candidates (headerFields header)) →
        verify hmac body header (.str text) tolerance now = .error (.python .typeError)) ∧
      (¬ Stumbles (hmac (utf8 text) (framed ts body)) (candidates (headerFields header)) →
        verify hmac body header (.str text) tolerance now =
          if hmac (utf8 text) (framed ts body) ∈ candidates (headerFields header) then .ok ()
          else .error verificationFailed) := by
  have hverify : verify hmac body header (.str text) tolerance now =
      ((candidates (headerFields header)).anyM
          (compareDigest (hmac (utf8 text) (framed ts body)))).bind fun found =>
        if found = true then .ok () else .error verificationFailed := by
    rw [verify, parseHeader_ok_iff.2 ⟨h, rfl⟩]
    show (if tolerance < |now - ts| then _ else _) = _
    rw [if_neg (not_lt.2 hwithin), compute_str h.natAbs_lt]
    rfl
  obtain ⟨hstumbles, hends⟩ := anyM_compareDigest (hascii (utf8 text) (framed ts body))
    (candidates (headerFields header))
  rw [hverify]
  constructor
  · intro hno
    rw [hstumbles hno]
    rfl
  · intro hyes
    rw [hends hyes]
    show (if decide _ = true then _ else _) = _
    simp only [decide_eq_true_eq]

/-- A secret that is not a string has no `encode`. -/
lemma verify_within_of_not_str (h : Timestamped header ts) (hwithin : |now - ts| ≤ tolerance)
    (hsecret : ∀ text, secret ≠ .str text) :
    verify hmac body header secret tolerance now = .error (.python .attributeError) := by
  have hcompute : compute hmac secret ts body = .error (.python .attributeError) := by
    rw [compute, strOfInt_of_lt h.natAbs_lt]
    cases secret with
    | str text => exact absurd rfl (hsecret text)
    | _ => rfl
  rw [verify, parseHeader_ok_iff.2 ⟨h, rfl⟩]
  show (if tolerance < |now - ts| then _ else _) = _
  rw [if_neg (not_lt.2 hwithin), hcompute]
  rfl

/-- **What it takes to be accepted.** -/
lemma verify_ok_iff (hascii : ∀ key message, isAsciiText (hmac key message) = true)
    {text : String} :
    verify hmac body header (.str text) tolerance now = .ok () ↔
      ∃ ts, Timestamped header ts ∧ |now - ts| ≤ tolerance ∧
        hmac (utf8 text) (framed ts body) ∈ candidates (headerFields header) ∧
        ¬ Stumbles (hmac (utf8 text) (framed ts body)) (candidates (headerFields header)) := by
  constructor
  · intro h
    cases hparse : parseHeader header with
    | error e =>
      rw [verify_of_error hparse] at h
      cases h
    | ok found =>
      obtain ⟨ts, signatures⟩ := found
      obtain ⟨htime, -⟩ := parseHeader_ok_iff.1 hparse
      have hwithin : |now - ts| ≤ tolerance := by
        by_contra hlate
        rw [verify_late htime (not_le.1 hlate)] at h
        cases h
      obtain ⟨hstumbles, hends⟩ := @verify_within hmac body header tolerance now ts hascii htime
        hwithin text
      -- a comparison that stumbles ends in an exception
      have hno : ¬ Stumbles (hmac (utf8 text) (framed ts body))
          (candidates (headerFields header)) := by
        intro hyes
        rw [hstumbles hyes] at h
        cases h
      refine ⟨ts, htime, hwithin, ?_, hno⟩
      by_contra hmem
      rw [hends hno, if_neg hmem] at h
      cases h
  · rintro ⟨ts, htime, hwithin, hmem, hno⟩
    rw [(verify_within hascii htime hwithin text).2 hno, if_pos hmem]

end Verify

/-! ## Headers that `sign` has made -/

/-- `f"t={ts},v1={digest}"` -/
def signedHeader (ts : ℤ) (digest : String) : String := "t=" ++ toString ts ++ ",v1=" ++ digest

lemma isSpace_of_printable {c : Char} (h : 33 ≤ c.toNat ∧ c.toNat ≤ 126) : isSpace c = false := by
  simp only [isSpace, Bool.or_eq_false_iff, Bool.and_eq_false_iff, decide_eq_false_iff_not]
  omega

lemma partitionEq_append {key value : List Char} (h : ∀ c ∈ key, c ≠ '=') :
    partitionEq (key ++ '=' :: value) = (String.ofList key, String.ofList value) := by
  have hkey : ∀ c ∈ key, decide (c ≠ '=') = true := fun c hc => decide_eq_true (h c hc)
  rw [partitionEq, List.takeWhile_append_of_pos hkey, List.dropWhile_append_of_pos hkey]
  simp

/-- A part of a header without white space. -/
lemma field_of_part {key value : List Char}
    (hkey : ∀ c ∈ key, c ≠ '=' ∧ 33 ≤ c.toNat ∧ c.toNat ≤ 126)
    (hvalue : ∀ c ∈ value, 33 ≤ c.toNat ∧ c.toNat ≤ 126) :
    partitionEq (strip (key ++ '=' :: value)) = (String.ofList key, String.ofList value) := by
  have hspace : ∀ c ∈ key ++ '=' :: value, isSpace c = false := by
    intro c hc
    refine isSpace_of_printable ?_
    rcases List.mem_append.1 hc with hc | hc
    · exact (hkey c hc).2
    · rcases List.mem_cons.1 hc with rfl | hc
      · decide
      · exact hvalue c hc
  rw [strip, stripBy_of_forall hspace, partitionEq_append fun c hc => (hkey c hc).1]

lemma headerFields_signedHeader (ts : ℤ) {digest : String}
    (hhex : ∀ c ∈ digest.toList, isHex c = true) :
    headerFields (signedHeader ts digest) = [("t", toString ts), ("v1", digest)] := by
  have hparts : (signedHeader ts digest).toList =
      [','].intercalate [['t'] ++ '=' :: (toString ts).toList,
        ['v', '1'] ++ '=' :: digest.toList] := by
    simp [signedHeader, List.intercalate]
  -- both values are printable and hold no comma, so splitting and stripping keep them
  have hts : ∀ c ∈ (toString ts).toList, 33 ≤ c.toNat ∧ c.toNat ≤ 126 ∧ c ≠ ',' := by
    intro c hc
    have hcode := isNumeral_toNat (isNumeral_of_mem c hc)
    refine ⟨by omega, by omega, ?_⟩
    rintro rfl
    exact absurd (isNumeral_of_mem ',' hc) (by decide)
  have hdigest : ∀ c ∈ digest.toList, 33 ≤ c.toNat ∧ c.toNat ≤ 126 ∧ c ≠ ',' := by
    intro c hc
    have hcode := isHex_toNat (hhex c hc)
    refine ⟨by omega, by omega, ?_⟩
    rintro rfl
    exact absurd (hhex ',' hc) (by decide)
  have hcomma : ∀ part ∈ [['t'] ++ '=' :: (toString ts).toList,
      ['v', '1'] ++ '=' :: digest.toList], ',' ∉ part := by
    intro part hpart hmem
    rcases List.mem_cons.1 hpart with rfl | hpart
    · have hmem' : ',' ∈ (toString ts).toList := by simpa using hmem
      exact (hts ',' hmem').2.2 rfl
    · rw [List.mem_singleton.1 hpart] at hmem
      have hmem' : ',' ∈ digest.toList := by simpa using hmem
      exact (hdigest ',' hmem').2.2 rfl
  have ht : ∀ c ∈ ['t'], c ≠ '=' ∧ 33 ≤ c.toNat ∧ c.toNat ≤ 126 := by
    intro c hc
    rw [List.mem_singleton.1 hc]
    decide
  have hv : ∀ c ∈ ['v', '1'], c ≠ '=' ∧ 33 ≤ c.toNat ∧ c.toNat ≤ 126 := by
    intro c hc
    rcases List.mem_cons.1 hc with rfl | hc
    · decide
    · rw [List.mem_singleton.1 hc]
      decide
  rw [headerFields, hparts, List.splitOn_intercalate ',' hcomma (List.cons_ne_nil _ _),
    List.map_cons, List.map_cons, List.map_nil,
    field_of_part ht fun c hc => ⟨(hts c hc).1, (hts c hc).2.1⟩,
    field_of_part hv fun c hc => ⟨(hdigest c hc).1, (hdigest c hc).2.1⟩,
    String.ofList_toList, String.ofList_toList]

/-- It parses, and says what it was made of. -/
lemma timestamped_signedHeader {ts : ℤ} (hts : ts.natAbs < 10 ^ maxStrDigits) {digest : String}
    (hhex : ∀ c ∈ digest.toList, isHex c = true) :
    Timestamped (signedHeader ts digest) ts ∧
      candidates (headerFields (signedHeader ts digest)) = [digest] := by
  have hfields := headerFields_signedHeader ts hhex
  have htimes : timestamps (headerFields (signedHeader ts digest)) = [some ts] := by
    rw [hfields, timestamps_cons, if_pos rfl, timestamps_cons,
      if_neg (show ¬ ("v1" : String) = "t" by decide), intOfText_toString hts]
    rfl
  have hcandidates : candidates (headerFields (signedHeader ts digest)) = [digest] := by
    rw [hfields, candidates_cons, if_neg (show ¬ ("t" : String) = "v1" by decide), candidates_cons,
      if_pos rfl]
    rfl
  refine ⟨⟨?_, ?_, ?_⟩, hcandidates⟩
  · rw [htimes]
    simp
  · rw [htimes]
    rfl
  · rw [hcandidates]
    exact List.cons_ne_nil _ _

/-- **Round trip and binding.**  A header that `sign` has made is accepted exactly within the
tolerance, and `sign` makes one for every timestamp that Python prints.  An accepted header
carries the signature of this body and of its timestamp, which is within the tolerance, under
this secret, and no other body, timestamp or secret has that signature. -/
theorem signature_bound {hmac : Bytes → Bytes → String}
    (hhex : ∀ key message, ∀ c ∈ (hmac key message).toList, isHex c = true)
    (hinjective : ∀ key message key' message', hmac key message = hmac key' message' →
      key = key' ∧ message = message') (body : Bytes) (secret : String) (tolerance now : ℤ) :
    (∀ ts : ℤ, ts.natAbs < 10 ^ maxStrDigits → ∃ header, sign hmac body secret ts = .ok header ∧
        (verify hmac body header (.str secret) tolerance now = .ok () ↔ |now - ts| ≤ tolerance)) ∧
      (∀ ts : ℤ, 10 ^ maxStrDigits ≤ ts.natAbs →
        sign hmac body secret ts = .error (.python .valueError)) ∧
      ∀ header, verify hmac body header (.str secret) tolerance now = .ok () →
        ∃ ts digest, Timestamped header ts ∧ |now - ts| ≤ tolerance ∧
          digest ∈ candidates (headerFields header) ∧
          sign hmac body secret ts = .ok (signedHeader ts digest) ∧
          ∀ body' secret' ts', sign hmac body' secret' ts' = .ok (signedHeader ts' digest) →
            body' = body ∧ secret' = secret ∧ ts' = ts := by
  have hascii : ∀ key message, isAsciiText (hmac key message) = true := fun key message =>
    isAsciiText_of_isHex (hhex key message)
  have hsign : ∀ {ts : ℤ}, ts.natAbs < 10 ^ maxStrDigits → ∀ body secret,
      sign hmac body secret ts = .ok (signedHeader ts (hmac (utf8 secret) (framed ts body))) := by
    intro ts hts body secret
    rw [sign, compute_str hts, strOfInt_of_lt hts]
    rfl
  refine ⟨fun ts hts => ⟨_, hsign hts body secret, ?_⟩, fun ts hts => ?_, fun header h => ?_⟩
  · obtain ⟨htime, hcandidates⟩ :=
      timestamped_signedHeader hts (hhex (utf8 secret) (framed ts body))
    constructor
    · intro h
      by_contra hlate
      rw [verify_late htime (not_le.1 hlate)] at h
      cases h
    · intro hwithin
      refine (verify_ok_iff hascii).2 ⟨ts, htime, hwithin, ?_, ?_⟩
      · rw [hcandidates]
        exact List.mem_cons_self
      · rw [hcandidates, stumbles_cons]
        rintro (hno | ⟨hne, -⟩)
        · rw [hascii] at hno
          cases hno
        · exact hne rfl
  · have hprint : strOfInt ts = .error (.python .valueError) := if_pos hts
    rw [sign, compute, hprint]
    rfl
  · obtain ⟨ts, htime, hwithin, hmem, -⟩ := (verify_ok_iff hascii).1 h
    refine ⟨ts, _, htime, hwithin, hmem, hsign htime.natAbs_lt body secret, ?_⟩
    intro body' secret' ts' hsign'
    have hts' : ts'.natAbs < 10 ^ maxStrDigits := by
      by_contra hlarge
      have hprint : strOfInt ts' = .error (.python .valueError) := if_pos (not_lt.1 hlarge)
      rw [sign, compute, hprint] at hsign'
      cases hsign'
    rw [hsign hts' body' secret'] at hsign'
    have hdigest : hmac (utf8 secret') (framed ts' body') =
        hmac (utf8 secret) (framed ts body) := by
      have hheader := congrArg String.toList (Except.ok.inj hsign')
      simpa [signedHeader, String.toList_inj] using hheader
    -- the same digest was made of the same bytes
    obtain ⟨hkey, hmessage⟩ := hinjective _ _ _ _ hdigest
    obtain ⟨hts, hbody⟩ := framed_injective hmessage
    exact ⟨hbody, utf8_injective hkey, hts⟩

/-- The HMAC-SHA256 of `1000.\x7b\x7d` under `whsec`. -/
def demoDigest : String := "12ea441391fdd08b20eaf150b36092e5e2a923e74bd6909f24f88dd43b631cb2"

/-- A numeral for each key and message, except for these two, whose digest it gives. -/
def demoHmac (key message : Bytes) : String :=
  if key = utf8 "whsec" ∧ message = utf8 "1000.\x7b\x7d" then demoDigest
  else toString (Encodable.encode (key.map UInt8.toNat, message.map UInt8.toNat) : ℕ)

lemma isDigit_of_mem_toString {n : ℕ} {c : Char} (hc : c ∈ (toString n).toList) :
    c.isDigit = true := by
  rw [Nat.toString_eq_repr, Nat.toList_repr] at hc
  exact isDigit_of_mem_toDigits hc

lemma isHex_demoHmac (key message : Bytes) :
    ∀ c ∈ (demoHmac key message).toList, isHex c = true := by
  rw [demoHmac]
  split
  · exact List.all_eq_true.1 (by decide)
  · intro c hc
    rw [isHex, isDigit_of_mem_toString hc, Bool.true_or]

/-- The digest is no numeral. -/
lemma demoDigest_ne (n : ℕ) : demoDigest ≠ toString n := by
  intro h
  have hmem : 'e' ∈ (toString n).toList := by
    rw [← h]
    decide
  exact absurd (isDigit_of_mem_toString hmem) (by decide)

lemma demoHmac_injective (key message key' message' : Bytes)
    (h : demoHmac key message = demoHmac key' message') : key = key' ∧ message = message' := by
  have hinjective : Function.Injective (List.map UInt8.toNat) :=
    List.map_injective_iff.2 fun a b => UInt8.toNat_inj.1
  by_cases hdemo : key = utf8 "whsec" ∧ message = utf8 "1000.\x7b\x7d"
  · by_cases hdemo' : key' = utf8 "whsec" ∧ message' = utf8 "1000.\x7b\x7d"
    · exact ⟨hdemo.1.trans hdemo'.1.symm, hdemo.2.trans hdemo'.2.symm⟩
    · rw [demoHmac, if_pos hdemo, demoHmac, if_neg hdemo'] at h
      exact absurd h (demoDigest_ne _)
  · by_cases hdemo' : key' = utf8 "whsec" ∧ message' = utf8 "1000.\x7b\x7d"
    · rw [demoHmac, if_neg hdemo, demoHmac, if_pos hdemo'] at h
      exact absurd h.symm (demoDigest_ne _)
    · rw [demoHmac, if_neg hdemo, demoHmac, if_neg hdemo'] at h
      have hread := congrArg (fun s => Nat.ofDigitChars 10 s.toList 0) h
      simp only [Nat.toString_eq_repr, Nat.toList_repr, Nat.ofDigitChars_ten_toDigits] at hread
      obtain ⟨hkey, hmessage⟩ := Prod.mk.inj (Encodable.encode_injective hread)
      exact ⟨hinjective hkey, hinjective hmessage⟩

theorem signature_bound_demo :
    (∀ ts : ℤ, ts.natAbs < 10 ^ maxStrDigits → ∃ header,
        sign demoHmac (utf8 "\x7b\x7d") "whsec" ts = .ok header ∧
        (verify demoHmac (utf8 "\x7b\x7d") header (.str "whsec") 300 1000 = .ok () ↔
          |1000 - ts| ≤ 300)) ∧
      (∀ ts : ℤ, 10 ^ maxStrDigits ≤ ts.natAbs →
        sign demoHmac (utf8 "\x7b\x7d") "whsec" ts = .error (.python .valueError)) ∧
      ∀ header, verify demoHmac (utf8 "\x7b\x7d") header (.str "whsec") 300 1000 = .ok () →
        ∃ ts digest, Timestamped header ts ∧ |1000 - ts| ≤ 300 ∧
          digest ∈ candidates (headerFields header) ∧
          sign demoHmac (utf8 "\x7b\x7d") "whsec" ts = .ok (signedHeader ts digest) ∧
          ∀ body' secret' ts', sign demoHmac body' secret' ts' = .ok (signedHeader ts' digest) →
            body' = utf8 "\x7b\x7d" ∧ secret' = "whsec" ∧ ts' = ts :=
  signature_bound isHex_demoHmac demoHmac_injective (utf8 "\x7b\x7d") "whsec" 300 1000

/-- No header is made for a timestamp of 4301 digits, at that very time. -/
theorem signature_unprintable :
    ¬ ((sign demoHmac (utf8 "\x7b\x7d") "whsec" (10 ^ maxStrDigits)).bind (fun header =>
        verify demoHmac (utf8 "\x7b\x7d") header (.str "whsec") 300 (10 ^ maxStrDigits)) = .ok () ↔
      |(10 ^ maxStrDigits : ℤ) - 10 ^ maxStrDigits| ≤ 300) := by
  have habs : ∀ n : ℕ, ((10 : ℤ) ^ n).natAbs = 10 ^ n := fun n => Int.natAbs_pow 10 n
  have hprint : strOfInt (10 ^ maxStrDigits) = .error (.python .valueError) :=
    if_pos (habs maxStrDigits).ge
  have hsign : sign demoHmac (utf8 "\x7b\x7d") "whsec" (10 ^ maxStrDigits) =
      .error (.python .valueError) := by
    rw [sign, compute, hprint]
    rfl
  rw [hsign, sub_self, abs_zero]
  exact fun h => nomatch h.2 (by decide)

/-- `isinstance(exc, (SignatureInvalidError, ReplayDetectedError))` -/
def Documented : Exn → Bool
  | .domain e => e.cls = .signatureInvalidError || e.cls = .replayDetectedError
  | _ => false

/-- **Documented errors.**  `verify` raises one of the errors that it documents whenever it
raises, exactly if, on a header with a timestamp within the tolerance, the secret is a string
and the signature with a character outside ASCII that comes first comes after the digest. -/
theorem verify_documented_iff {hmac : Bytes → Bytes → String}
    (hascii : ∀ key message, isAsciiText (hmac key message) = true) (body : Bytes)
    (header : String) (secret : Json) (tolerance now : ℤ) :
    (∀ e, verify hmac body header secret tolerance now = .error e → Documented e = true) ↔
      ∀ ts, Timestamped header ts → |now - ts| ≤ tolerance →
        ∃ text, secret = .str text ∧
          ¬ Stumbles (hmac (utf8 text) (framed ts body)) (candidates (headerFields header)) := by
  constructor
  · -- a fresh header under a secret that is no text, or that stumbles, raises a TypeError
    intro h ts htime hwithin
    by_cases hsecret : ∃ text, secret = .str text
    · obtain ⟨text, rfl⟩ := hsecret
      refine ⟨text, rfl, fun hstumbles => ?_⟩
      have hraised := h _ ((verify_within hascii htime hwithin text).1 hstumbles)
      cases hraised
    · have hraised := h _ (verify_within_of_not_str htime hwithin fun text heq =>
        hsecret ⟨text, heq⟩)
      cases hraised
  · -- the steps of `verify` in turn: the parse, the age, the comparison
    intro h e he
    cases hparse : parseHeader header with
    | error e' =>
      rw [verify_of_error hparse] at he
      cases he
      rcases parseHeader_error hparse with rfl | rfl <;> rfl
    | ok found =>
      obtain ⟨ts, signatures⟩ := found
      obtain ⟨htime, -⟩ := parseHeader_ok_iff.1 hparse
      by_cases hwithin : |now - ts| ≤ tolerance
      · obtain ⟨text, rfl, hno⟩ := h ts htime hwithin
        rw [(verify_within hascii htime hwithin text).2 hno] at he
        split at he
        · cases he
        · cases he
          rfl
      · rw [verify_late htime (not_le.1 hwithin)] at he
        cases he
        rfl

theorem verify_documented_demo :
    (∀ e, verify (fun _ _ => demoDigest) (utf8 "\x7b\x7d") "t=1000,v1=\xe9" (.str "whsec") 300
        5000 = .error e → Documented e = true) ↔
      ∀ ts, Timestamped "t=1000,v1=\xe9" ts → |5000 - ts| ≤ 300 →
        ∃ text, Json.str "whsec" = .str text ∧
          ¬ Stumbles demoDigest (candidates (headerFields "t=1000,v1=\xe9")) :=
  verify_documented_iff (fun _ _ => by decide) (utf8 "\x7b\x7d") "t=1000,v1=\xe9" (.str "whsec") 300
    5000

/-- A signature with a letter outside ASCII raises a `TypeError`. -/
theorem verify_undocumented :
    ¬ ∀ e, verify (fun _ _ => demoDigest) (utf8 "\x7b\x7d") "t=1000,v1=\xe9" (.str "whsec") 300
        1000 = .error e → Documented e = true := by
  have hraised : verify (fun _ _ => demoDigest) (utf8 "\x7b\x7d") "t=1000,v1=\xe9" (.str "whsec")
      300 1000 = .error (.python .typeError) := by decide +kernel
  exact fun h => nomatch h _ hraised

end Signatures

end PaymentGateway
