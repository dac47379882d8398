import TypeDBDriver.Http.Driver
import TypeDBDriver.Lib.Numeral
import Mathlib.Data.List.Nodup

/-!
# Resolving the primary's address

The parser of URLs is a parameter. An address without a scheme means what the driver completes it
to, with the scheme of the first external origin.

* `UrlRecord`, `UrlParser`: what the parser makes of a text; the default port of a scheme is absent.
* `endpoint`, `Same`: the host and port that an address names, letter case and defaults aside.
* `Resolved`: an origin is the right one for an address.
* `WrittenAs`, `FirstWritten`: what the driver compares, which are texts.
* `resolved_iff_of_plain`: with ports and small letters throughout, only the order of the table counts.
* **`resolved_iff`**: exactly when the right origin is found.
-/

namespace TypeDBDriver.Http

/-! ## URLs -/

/-- A parsed URL. The port is absent where it is the default of the scheme. -/
structure UrlRecord where
  protocol : String
  hostname : String
  port : Option ℕ

def UrlRecord.host (u : UrlRecord) : String :=
  match u.port with
  | some port => u.hostname ++ ":" ++ toString port
  | none => u.hostname

/-- The default ports of the schemes that have one. -/
def defaultPort (protocol : String) : Option ℕ :=
  if protocol = "http:" ∨ protocol = "ws:" then some 80
  else if protocol = "https:" ∨ protocol = "wss:" then some 443
  else if protocol = "ftp:" then some 21
  else none

/-- A host, in small letters, and a port. -/
structure Endpoint where
  host : String
  port : Option ℕ
  deriving DecidableEq

/-- What a URL names. -/
def UrlRecord.endpoint (u : UrlRecord) : Endpoint where
  host := u.hostname.toLower
  port := u.port.or (defaultPort u.protocol)

/-- The platform's parser. Its `protocol` is a scheme and a colon. -/
structure UrlParser where
  parse : String → Option UrlRecord
  isScheme {s : String} {u : UrlRecord} (h : parse s = some u) :
    hasScheme (u.protocol ++ "//") = true

/-- The parts that the driver reads. -/
def UrlParser.toURL (W : UrlParser) : URL where
  host s := (W.parse s).map UrlRecord.host
  protocol s := (W.parse s).map UrlRecord.protocol

theorem hasScheme_append {s : String} (h : hasScheme s = true) (t : String) :
    hasScheme (s ++ t) = true := by
  rw [hasScheme] at h ⊢
  rw [String.toList_append]
  cases hs : s.toList with
  | nil =>
    rw [hs] at h
    cases h
  | cons c cs =>
    rw [hs] at h
    simp only [Bool.and_eq_true, beq_iff_eq] at h
    obtain ⟨hc, htake⟩ := h
    have hne : cs.dropWhile isSchemeChar ≠ [] := by
      intro hnil
      rw [hnil] at htake
      cases htake
    have hlen : 3 ≤ (cs.dropWhile isSchemeChar).length := by
      have := congrArg List.length htake
      simp only [List.length_take] at this
      have h3 : "://".toList.length = 3 := rfl
      omega
    simp only [List.cons_append, hc, Bool.true_and, beq_iff_eq]
    rw [List.dropWhile_append, if_neg (by simpa using hne), List.take_append_of_le_length hlen]
    exact htake

/-- A completed address has a scheme. -/
theorem hasScheme_originWithScheme (W : UrlParser) (address reference : String) :
    hasScheme (originWithScheme W.toURL address reference) = true := by
  rw [originWithScheme]
  split_ifs with h
  · exact h
  · cases hp : W.parse reference with
    | none =>
      simp only [UrlParser.toURL, hp, Option.map_none]
      exact hasScheme_append (by decide) address
    | some u =>
      simp only [UrlParser.toURL, hp, Option.map_some]
      exact hasScheme_append (W.isScheme hp) address

/-! ## The right origin -/

section Table

variable (W : UrlParser) (table : TranslatedAddresses)

/-- An address, with the scheme of the first external origin when it has none. -/
def complete (address : String) : String :=
  originWithScheme W.toURL address (DriverParams.translated table).remoteOrigin

/-- The host and port that an address names. -/
def endpoint (address : String) : Option Endpoint :=
  (W.parse (complete W table address)).map UrlRecord.endpoint

/-- Two addresses name the same host and port. -/
def Same (a b : String) : Prop := ∃ x, endpoint W table a = some x ∧ endpoint W table b = some x

/-- Every address of the table names a host and port, no two in one column the same. -/
structure Configured : Prop where
  named : ∀ ta ∈ table.entries, (endpoint W table ta.internal).isSome ∧
    (endpoint W table ta.external).isSome
  internals : (table.entries.map fun ta => endpoint W table ta.internal).Nodup
  externals : (table.entries.map fun ta => endpoint W table ta.external).Nodup

/-- `origin` is the right one for an address: that of the entry with this internal address, else of
the entry with this external address, else the address itself. -/
structure Resolved (address origin : String) : Prop where
  internal : ∀ ta ∈ table.entries, Same W table ta.internal address → origin = ta.external
  external : (∀ ta ∈ table.entries, ¬ Same W table ta.internal address) →
    ∀ ta ∈ table.entries, Same W table ta.external address → origin = ta.external
  other : (∀ ta ∈ table.entries,
    ¬ Same W table ta.internal address ∧ ¬ Same W table ta.external address) →
      origin = complete W table address

/-- The entry that an address names. -/
def Named (address : String) (ta : TranslatedAddress) : Prop :=
  Same W table ta.internal address ∨
    (∀ x ∈ table.entries, ¬ Same W table x.internal address) ∧ Same W table ta.external address

/-- One of the entry's addresses has the host and port of `address` as text. -/
def WrittenAs (address : String) (ta : TranslatedAddress) : Prop :=
  hostPortFromOrigin W.toURL ta.internal = hostPortFromOrigin W.toURL address ∨
    hostPortFromOrigin W.toURL ta.external = hostPortFromOrigin W.toURL address

/-- An entry is the first one written as `address`. -/
def FirstWritten (address : String) (ta : TranslatedAddress) : Prop :=
  ∃ before after, table.entries = before ++ ta :: after ∧ WrittenAs W address ta ∧
    ∀ x ∈ before, ¬ WrittenAs W address x

/-- The texts tell the entry that `address` names: it is the first one written as `address`. Where
no entry is, the origin may still be spelled like the completed address. -/
structure Told (address : String) : Prop where
  named : ∀ ta ∈ table.entries, Named W table address ta →
    FirstWritten W table address ta ∨
      (∀ x ∈ table.entries, ¬ WrittenAs W address x) ∧ ta.external = complete W table address
  unnamed : (∀ ta ∈ table.entries, ¬ Named W table address ta) → ∀ ta ∈ table.entries, ¬ WrittenAs W address ta

end Table

section Resolving

variable {W : UrlParser} {table : TranslatedAddresses} {address origin : String}

theorem resolved_iff_named : Resolved W table address origin ↔
    (∀ ta ∈ table.entries, Named W table address ta → origin = ta.external) ∧
      ((∀ ta ∈ table.entries, ¬ Named W table address ta) → origin = complete W table address) := by
  constructor
  · intro h
    refine ⟨?_, fun hnone => h.other fun ta hta => ?_⟩
    · rintro ta hta (hint | ⟨hno, hext⟩)
      · exact h.internal ta hta hint
      · exact h.external hno ta hta hext
    · have hno : ∀ x ∈ table.entries, ¬ Same W table x.internal address :=
        fun x hx hsame => hnone x hx (.inl hsame)
      exact ⟨hno ta hta, fun hsame => hnone ta hta (.inr ⟨hno, hsame⟩)⟩
  · rintro ⟨hnamed, hnone⟩
    refine ⟨fun ta hta hsame => hnamed ta hta (.inl hsame),
      fun hno ta hta hsame => hnamed ta hta (.inr ⟨hno, hsame⟩), fun hno => hnone ?_⟩
    rintro ta hta (hsame | ⟨-, hsame⟩)
    · exact (hno ta hta).1 hsame
    · exact (hno ta hta).2 hsame

/-- An address is resolved to the first entry written as it is, and completed where there is none. -/
theorem resolveOrigin_cases (W : UrlParser) (table : TranslatedAddresses) (address : String) :
    (∃ ta ∈ table.entries, FirstWritten W table address ta ∧
      resolveOrigin W.toURL (.translated table) address = ta.external) ∨
    (∀ ta ∈ table.entries, ¬ WrittenAs W address ta) ∧
      resolveOrigin W.toURL (.translated table) address = complete W table address := by
  rw [resolveOrigin]
  split
  · rename_i ta hfind
    left
    obtain ⟨hta, before, after, htable, hbefore⟩ := List.find?_eq_some_iff_append.mp hfind
    refine ⟨ta, List.mem_of_find?_eq_some hfind, ⟨before, after, htable, ?_, fun x hx => ?_⟩, rfl⟩
    · simpa [WrittenAs] using hta
    · have := hbefore x hx
      rw [Bool.not_eq_true', decide_eq_false_iff_not] at this
      exact this
  · rename_i hfind
    right
    refine ⟨fun ta hta hwritten => ?_, rfl⟩
    have := List.find?_eq_none.mp hfind ta hta
    rw [decide_eq_true_eq] at this
    exact this hwritten

/-- There is one first entry. -/
theorem FirstWritten.unique {ta tb : TranslatedAddress} (ha : FirstWritten W table address ta)
    (hb : FirstWritten W table address tb) : ta = tb := by
  obtain ⟨before, after, htable, hta, hbefore⟩ := ha
  obtain ⟨before', after', htable', htb, hbefore'⟩ := hb
  rw [htable] at htable'
  rcases List.append_eq_append_iff.mp htable' with ⟨c, rfl, hc⟩ | ⟨c, rfl, hc⟩
  · cases c with
    | nil => exact (List.cons.inj hc).1
    | cons x c =>
      obtain ⟨rfl, -⟩ := List.cons.inj hc
      exact absurd hta (hbefore' ta (by simp))
  · cases c with
    | nil => exact (List.cons.inj hc).1.symm
    | cons x c =>
      obtain ⟨rfl, -⟩ := List.cons.inj hc
      exact absurd htb (hbefore tb (by simp))

/-- No two entries have one internal address. -/
theorem Configured.eq_of_internal (hc : Configured W table) {ta tb : TranslatedAddress}
    (ha : ta ∈ table.entries) (hb : tb ∈ table.entries) (hta : Same W table ta.internal address)
    (htb : Same W table tb.internal address) : ta = tb := by
  obtain ⟨x, hx, hx'⟩ := hta
  obtain ⟨y, hy, hy'⟩ := htb
  rw [hx', Option.some.injEq] at hy'
  exact List.inj_on_of_nodup_map hc.internals ha hb (by rw [hx, hy, hy'])

theorem Configured.eq_of_external (hc : Configured W table) {ta tb : TranslatedAddress}
    (ha : ta ∈ table.entries) (hb : tb ∈ table.entries) (hta : Same W table ta.external address)
    (htb : Same W table tb.external address) : ta = tb := by
  obtain ⟨x, hx, hx'⟩ := hta
  obtain ⟨y, hy, hy'⟩ := htb
  rw [hx', Option.some.injEq] at hy'
  exact List.inj_on_of_nodup_map hc.externals ha hb (by rw [hx, hy, hy'])

/-- An entry does not stand in front of itself. -/
theorem Configured.ne_of_mem_before (hc : Configured W table) {ta x : TranslatedAddress}
    {before after : List TranslatedAddress} (htable : table.entries = before ++ ta :: after)
    (hx : x ∈ before) : x ≠ ta := by
  have hnodup : table.entries.Nodup := List.Nodup.of_map _ hc.internals
  rw [htable, List.nodup_append] at hnodup
  exact hnodup.2.2 x hx ta List.mem_cons_self

/-- No two entries have one external origin. -/
theorem Configured.external_injective (hc : Configured W table) {ta tb : TranslatedAddress}
    (ha : ta ∈ table.entries) (hb : tb ∈ table.entries) (h : ta.external = tb.external) : ta = tb :=
  List.inj_on_of_nodup_map hc.externals ha hb (by rw [h])

theorem endpoint_complete (address : String) :
    endpoint W table (complete W table address) = endpoint W table address := by
  have hscheme : hasScheme (complete W table address) = true :=
    hasScheme_originWithScheme W address _
  rw [endpoint, endpoint]
  conv_lhs => rw [complete, originWithScheme, if_pos hscheme]

/-- **What is found is right only if the texts tell it.** -/
theorem told_of_resolved (hc : Configured W table)
    (h : Resolved W table address (resolveOrigin W.toURL (.translated table) address)) :
    Told W table address := by
  obtain ⟨hnamed, hnone⟩ := resolved_iff_named.mp h
  rcases resolveOrigin_cases W table address with ⟨x, hx, hfirst, hresolve⟩ | ⟨hno, hresolve⟩
  · rw [hresolve] at hnamed hnone
    refine ⟨fun ta hta hname => ?_, fun hunnamed => ?_⟩
    · obtain rfl := hc.external_injective hx hta (hnamed ta hta hname)
      exact .inl hfirst
    · -- the completed address would be an external origin of the table
      have hspelled := hnone hunnamed
      have hsame : Same W table x.external address := by
        obtain ⟨y, hy⟩ := Option.isSome_iff_exists.mp (hc.named x hx).2
        refine ⟨y, hy, ?_⟩
        rw [hspelled, endpoint_complete] at hy
        exact hy
      have hinternal : ∀ z ∈ table.entries, ¬ Same W table z.internal address :=
        fun z hz hsame => hunnamed z hz (.inl hsame)
      exact absurd (.inr ⟨hinternal, hsame⟩) (hunnamed x hx)
  · rw [hresolve] at hnamed
    exact ⟨fun ta hta hname => .inr ⟨hno, (hnamed ta hta hname).symm⟩, fun _ => hno⟩

/-- **What the texts tell is found.** -/
theorem resolved_of_told (h : Told W table address) :
    Resolved W table address (resolveOrigin W.toURL (.translated table) address) := by
  rw [resolved_iff_named]
  rcases resolveOrigin_cases W table address with ⟨x, hx, hfirst, hresolve⟩ | ⟨hno, hresolve⟩
  · rw [hresolve]
    obtain ⟨-, -, -, hwritten, -⟩ := id hfirst
    refine ⟨fun ta hta hname => ?_, fun hunnamed => absurd hwritten (h.unnamed hunnamed x hx)⟩
    rcases h.named ta hta hname with hta' | ⟨hno, -⟩
    · rw [hta'.unique hfirst]
    · exact absurd hwritten (hno x hx)
  · rw [hresolve]
    refine ⟨fun ta hta hname => ?_, fun _ => rfl⟩
    rcases h.named ta hta hname with ⟨-, -, -, hwritten, -⟩ | ⟨-, hspelled⟩
    · exact absurd hwritten (hno ta hta)
    · exact hspelled.symm

/-! ## Addresses written in full -/

/-- The text of an address is its host in small letters and its port. -/
def Plain (W : UrlParser) (table : TranslatedAddresses) (address : String) : Prop :=
  ∃ host port, endpoint W table address = some ⟨host, some port⟩ ∧
    hostPortFromOrigin W.toURL address = host ++ ":" ++ toString port

/-- The port is what follows the last colon. -/
theorem hostPort_injective {host host' : String} {port port' : ℕ}
    (h : host ++ ":" ++ toString port = host' ++ ":" ++ toString port') :
    host = host' ∧ port = port' := by
  have hsplit : ∀ (x : String) (n : ℕ),
      Numeral.splitOnce ':' (x ++ ":" ++ toString n).toList.reverse =
        some ((Nat.toDigits 10 n).reverse, x.toList.reverse) := by
    intro x n
    have hdigits : ':' ∉ (Nat.toDigits 10 n).reverse := by
      rw [List.mem_reverse]
      exact Numeral.not_mem_of_allDigits (Numeral.allDigits_toDigits n) rfl
    have htext : (x ++ ":" ++ toString n).toList.reverse =
        (Nat.toDigits 10 n).reverse ++ ':' :: x.toList.reverse := by
      simp [Nat.toString_eq_repr, Nat.toList_repr]
    rw [htext, Numeral.splitOnce_append hdigits]
  have heq := hsplit host port
  rw [h, hsplit host' port', Option.some.injEq, Prod.mk.injEq, List.reverse_inj,
    List.reverse_inj] at heq
  have hport := congrArg (fun ds => Nat.ofDigitChars 10 ds 0) heq.1
  simp only [Nat.ofDigitChars_ten_toDigits] at hport
  exact ⟨(String.toList_inj.mp heq.2).symm, hport.symm⟩

/-- **Between addresses written in full, the texts agree with the meaning.** -/
theorem same_iff_of_plain {a b : String} (ha : Plain W table a) (hb : Plain W table b) :
    Same W table a b ↔ hostPortFromOrigin W.toURL a = hostPortFromOrigin W.toURL b := by
  obtain ⟨host, port, hea, hta⟩ := ha
  obtain ⟨host', port', heb, htb⟩ := hb
  constructor
  · rintro ⟨x, hx, hx'⟩
    rw [hea] at hx
    rw [heb, ← Option.some.inj hx] at hx'
    obtain ⟨rfl, hport⟩ := Endpoint.mk.inj (Option.some.inj hx')
    rw [hta, htb, Option.some.inj hport]
  · intro htext
    rw [hta, htb] at htext
    obtain ⟨rfl, rfl⟩ := hostPort_injective htext
    exact ⟨_, hea, heb⟩

/-- **With every address written in full, the right origin is found just when no earlier entry has
the external address that the named entry has internally.** -/
theorem resolved_iff_of_plain (hc : Configured W table) (hp : Plain W table address)
    (htable : ∀ ta ∈ table.entries, Plain W table ta.internal ∧ Plain W table ta.external) :
    Resolved W table address (resolveOrigin W.toURL (.translated table) address) ↔
      ∀ before ta after, table.entries = before ++ ta :: after → Same W table ta.internal address →
        ∀ x ∈ before, ¬ Same W table x.external address := by
  have hwritten : ∀ ta ∈ table.entries, WrittenAs W address ta ↔
      Same W table ta.internal address ∨ Same W table ta.external address := by
    intro ta hta
    rw [same_iff_of_plain (htable ta hta).1 hp, same_iff_of_plain (htable ta hta).2 hp]
    rfl
  constructor
  · intro h before ta after hsplit hsame x hx hext
    have hmem : ∀ y ∈ before, y ∈ table.entries := fun y hy => by
      rw [hsplit]
      exact List.mem_append_left _ hy
    have hta : ta ∈ table.entries := by
      rw [hsplit]
      simp
    have hxw : WrittenAs W address x := (hwritten x (hmem x hx)).mpr (.inr hext)
    rcases (told_of_resolved hc h).named ta hta (.inl hsame) with
      ⟨before', after', hsplit', htaw, hbefore'⟩ | ⟨hno, -⟩
    · rw [hsplit'] at hsplit
      rcases List.append_eq_append_iff.mp hsplit with ⟨c, rfl, hc'⟩ | ⟨c, rfl, hc'⟩
      · rcases List.mem_append.mp hx with hx' | hx'
        · exact hbefore' x hx' hxw
        · cases c with
          | nil => cases hx'
          | cons y c =>
            obtain ⟨rfl, -⟩ := List.cons.inj hc'
            exact hc.ne_of_mem_before (hsplit'.trans hsplit) (by simp) rfl
      · exact hbefore' x (List.mem_append_left _ hx) hxw
    · exact hno x (hmem x hx) hxw
  · intro horder
    refine resolved_of_told ⟨fun ta hta hname => .inl ?_, fun hunnamed ta hta htaw => ?_⟩
    · obtain ⟨before, after, hsplit⟩ := List.append_of_mem hta
      have hmem : ∀ y ∈ before, y ∈ table.entries := fun y hy => by
        rw [hsplit]
        exact List.mem_append_left _ hy
      refine ⟨before, after, hsplit, ?_, fun x hx hxw => ?_⟩
      · rw [hwritten ta hta]
        rcases hname with hint | ⟨-, hext⟩
        · exact .inl hint
        · exact .inr hext
      · have hne := hc.ne_of_mem_before hsplit hx
        rcases (hwritten x (hmem x hx)).mp hxw with hxint | hxext
        · rcases hname with hint | ⟨hno, -⟩
          · exact hne (hc.eq_of_internal (hmem x hx) hta hxint hint)
          · exact hno x (hmem x hx) hxint
        · rcases hname with hint | ⟨-, hext⟩
          · exact horder before ta after hsplit hint x hx hxext
          · exact hne (hc.eq_of_external (hmem x hx) hta hxext hext)
    · have hno : ∀ x ∈ table.entries, ¬ Same W table x.internal address :=
        fun x hx hsame => hunnamed x hx (.inl hsame)
      rcases (hwritten ta hta).mp htaw with hint | hext
      · exact hno ta hta hint
      · exact hunnamed ta hta (.inr ⟨hno, hext⟩)

/-! ## The exact condition -/

/-- **The right origin is found just when the texts tell the entry that the address names.** -/
theorem resolved_iff (hc : Configured W table) :
    Resolved W table address (resolveOrigin W.toURL (.translated table) address) ↔
      Told W table address :=
  ⟨told_of_resolved hc, resolved_of_told⟩

end Resolving

/-! ## Web addresses -/

/-- What follows the scheme of a URL without user, path, query and fragment. -/
def authority (protocol : String) (default : ℕ) (cs : List Char) : Option UrlRecord :=
  match Numeral.splitOnce ':' cs with
  | none => some ⟨protocol, (String.ofList cs).toLower, none⟩
  | some (host, digits) =>
    let port := Nat.ofDigitChars 10 digits 0
    some ⟨protocol, (String.ofList host).toLower, if port = default then none else some port⟩

def parseWeb (s : String) : Option UrlRecord :=
  if s.toList.take 8 = "https://".toList then authority "https:" 443 (s.toList.drop 8)
  else if s.toList.take 7 = "http://".toList then authority "http:" 80 (s.toList.drop 7)
  else none

theorem protocol_authority {protocol : String} {default : ℕ} {cs : List Char} {u : UrlRecord}
    (h : authority protocol default cs = some u) : u.protocol = protocol := by
  rw [authority] at h
  split at h
  · rw [← Option.some.inj h]
  · rw [← Option.some.inj h]

/-- The parser on URLs of a scheme in small letters, a host and a port. -/
def web : UrlParser where
  parse := parseWeb
  isScheme := by
    intro s u h
    rw [parseWeb] at h
    split_ifs at h
    · rw [protocol_authority h]
      decide
    · rw [protocol_authority h]
      decide

/-- One entry. -/
def oneEntry : TranslatedAddresses where
  entries := [⟨"https://one.example:8000", "core1:8000"⟩]
  ne := by simp

/-- The internal address of the second entry is the host and port of the first external one. -/
def crossed : TranslatedAddresses where
  entries := [⟨"https://a:8000", "b:8000"⟩, ⟨"https://c:8000", "a:8000"⟩]
  ne := by simp

theorem configured_oneEntry : Configured web oneEntry where
  named := by decide +kernel
  internals := by decide +kernel
  externals := by decide +kernel

theorem configured_crossed : Configured web crossed where
  named := by decide +kernel
  internals := by decide +kernel
  externals := by decide +kernel

theorem resolved_iff_oneEntry :
    Resolved web oneEntry "core1:8000"
        (resolveOrigin web.toURL (.translated oneEntry) "core1:8000") ↔
      Told web oneEntry "core1:8000" :=
  resolved_iff configured_oneEntry

/-- A capital letter hides an internal address without a scheme, and an external address hides a
later internal one. -/
theorem not_resolved :
    (Configured web oneEntry ∧ ¬ Resolved web oneEntry "Core1:8000"
      (resolveOrigin web.toURL (.translated oneEntry) "Core1:8000")) ∧
    (Configured web crossed ∧ ¬ Resolved web crossed "a:8000"
      (resolveOrigin web.toURL (.translated crossed) "a:8000")) := by
  refine ⟨⟨configured_oneEntry, ?_⟩, configured_crossed, ?_⟩
  · intro h
    have hsame : Same web oneEntry "core1:8000" "Core1:8000" :=
      ⟨⟨"core1", some 8000⟩, by decide +kernel, by decide +kernel⟩
    have horigin := h.internal ⟨"https://one.example:8000", "core1:8000"⟩ (by simp [oneEntry]) hsame
    exact absurd horigin (by decide +kernel)
  · intro h
    have hsame : Same web crossed "a:8000" "a:8000" :=
      ⟨⟨"a", some 8000⟩, by decide +kernel, by decide +kernel⟩
    have horigin := h.internal ⟨"https://c:8000", "a:8000"⟩ (by simp [crossed]) hsame
    exact absurd horigin (by decide +kernel)

end TypeDBDriver.Http
