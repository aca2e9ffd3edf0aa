import QuicProxy.Curl.ResponseLines
import QuicProxy.Std.Places
import Mathlib.Data.List.Induction

/-!
# Pseudo-headers of a response

Status lines and fields go into one block, and a line is taken for a status line by its
first four bytes. `pseudo_storeFields` gives the pseudo-headers a section leaves there,
`oneStatus_iff` says for which fields these are the status alone.
-/

namespace QuicProxy

namespace SpdyHeaderBlock

/-- The entries whose names begin with a colon. -/
def pseudo (block : SpdyHeaderBlock) : List (Bytes × Bytes) :=
  block.entries.filter fun entry => entry.1.head? = some 58

/-- The names of a block, in order. -/
def names (block : SpdyHeaderBlock) : List Bytes := block.entries.map Prod.fst

/-- Change the values under one name. -/
def changeAt (name : Bytes) (change : Bytes → Bytes) (entry : Bytes × Bytes) : Bytes × Bytes :=
  if entry.1 = name then (entry.1, change entry.2) else entry

/-- A value is changed, and no name. -/
theorem changeAt_fst (name : Bytes) (change : Bytes → Bytes) (entry : Bytes × Bytes) :
    (changeAt name change entry).1 = entry.1 := by
  rw [changeAt]
  split <;> rfl

/-- A name that is there keeps its place. -/
theorem upsert_entries (block : SpdyHeaderBlock) (name : Bytes) (change : Bytes → Bytes)
    (fresh : Bytes) :
    (block.upsert name change fresh).entries =
      if name ∈ block.names then block.entries.map (changeAt name change)
      else block.entries ++ [(name, fresh)] := by
  rw [upsert, names]
  split <;> rfl

/-- A block gains the one name at most. -/
theorem mem_names_upsert (block : SpdyHeaderBlock) (name other : Bytes)
    (change : Bytes → Bytes) (fresh : Bytes) :
    other ∈ (block.upsert name change fresh).names ↔ other ∈ block.names ∨ other = name := by
  rw [names, upsert_entries]
  by_cases present : name ∈ block.names
  · have same : (block.entries.map (changeAt name change)).map Prod.fst = block.names := by
      rw [List.map_map, names]
      exact List.map_congr_left fun entry _ => changeAt_fst name change entry
    rw [if_pos present, same]
    constructor
    · exact .inl
    · rintro (member | rfl)
      · exact member
      · exact present
  · rw [if_neg present, List.map_append, List.mem_append]
    simp [names]

/-- The pseudo-headers of a block change with their own names only. -/
theorem pseudo_upsert (block : SpdyHeaderBlock) (name : Bytes) (change : Bytes → Bytes)
    (fresh : Bytes) :
    (block.upsert name change fresh).pseudo =
      if name ∈ block.names then block.pseudo.map (changeAt name change)
      else block.pseudo ++ if name.head? = some 58 then [(name, fresh)] else [] := by
  rw [pseudo, upsert_entries]
  by_cases present : name ∈ block.names
  · rw [if_pos present, if_pos present, List.filter_map, pseudo]
    congr 1
    apply List.filter_congr
    intro entry _
    rw [Function.comp_apply, changeAt_fst]
  · rw [if_neg present, if_neg present, List.filter_append, pseudo]
    by_cases isPseudo : name.head? = some 58
    · simp [isPseudo]
    · simp [isPseudo]

/-- A name that is no pseudo-header's leaves the pseudo-headers alone. -/
theorem pseudo_upsert_plain (block : SpdyHeaderBlock) {name : Bytes} (change : Bytes → Bytes)
    (fresh : Bytes) (plain : name.head? ≠ some 58) :
    (block.upsert name change fresh).pseudo = block.pseudo := by
  rw [pseudo_upsert]
  by_cases present : name ∈ block.names
  · have unchanged : ∀ entry ∈ block.pseudo, changeAt name change entry = entry := by
      intro entry member
      have isPseudo := of_decide_eq_true (List.mem_filter.mp member).2
      have differs : entry.1 ≠ name := by
        rintro rfl
        exact plain isPseudo
      rw [changeAt, if_neg differs]
    rw [if_pos present, List.map_congr_left unchanged, List.map_id']
  · rw [if_neg present, if_neg plain, List.append_nil]

/-- The only pseudo-header is changed in its place. -/
theorem pseudo_upsert_only (block : SpdyHeaderBlock) {name value : Bytes}
    (change : Bytes → Bytes) (fresh : Bytes) (only : block.pseudo = [(name, value)]) :
    (block.upsert name change fresh).pseudo = [(name, change value)] := by
  have present : name ∈ block.names := by
    have member : (name, value) ∈ block.pseudo := by
      rw [only]
      exact List.mem_singleton_self _
    exact List.mem_map_of_mem (List.mem_filter.mp member).1
  rw [pseudo_upsert, if_pos present, only, List.map_singleton, changeAt, if_pos rfl]

end SpdyHeaderBlock

/-- A field as the backend writes it: `name ": " value`, with any name and value. -/
structure BackendField where
  name : Bytes
  value : Bytes
deriving DecidableEq

namespace BackendField

/-- The field line, without its end. -/
def content (field : BackendField) : Bytes := field.name ++ ascii ": " ++ field.value

/-- The three bytes behind the first space. -/
def codeSlice (field : BackendField) : Bytes :=
  (field.content.find (ascii " ")).elim [] fun pos => field.content.substr (pos + 1) 3

/-- The name the block gets: what stands before the first `": "`, in lower case. -/
def key (platform : Platform) (field : BackendField) : Bytes :=
  (field.content.find (ascii ": ")).elim [] fun pos =>
    platform.toLower (field.content.substr 0 pos)

/-- The value the block gets. -/
def kept (field : BackendField) : Bytes :=
  (field.content.find (ascii ": ")).elim [] fun pos => field.content.drop (pos + 2)

/-- Every field line has a separator to be split at. -/
theorem separator_within (field : BackendField) : ascii ": " <:+: field.content :=
  ⟨field.name, field.value, rfl⟩

/-- Every field line has a space. -/
theorem space_within (field : BackendField) : ascii " " <:+: field.content :=
  ⟨field.name ++ [58], field.value, by simp [content, ascii]⟩

/-- A name that begins with `HTTP` is taken for a status line. -/
theorem readHeader_http {field : BackendField} (http : BeginsHttp field.content) :
    readHeader field.content = .status field.codeSlice := by
  obtain ⟨pos, found⟩ := Bytes.find_of_within field.space_within
  rw [readHeader_of_beginsHttp http, codeSlice, found]
  rfl

/-- Any other field is stored under its key. -/
theorem store_readHeader {platform : Platform} {field : BackendField}
    (notHttp : ¬ BeginsHttp field.content) (block : SpdyHeaderBlock) :
    QuicProxyCurl.store platform block (readHeader field.content) =
      block.appendValueOrAddHeader (field.key platform) field.kept := by
  obtain ⟨pos, found⟩ := Bytes.find_of_within field.separator_within
  rw [readHeader_of_not_beginsHttp notHttp, key, kept, found]
  rfl

/-- The field as a line of a section. -/
def line (field : BackendField) : LineText where
  text := field.content
  nonempty := by simp [content, ascii]
  accepted := by
    by_cases http : BeginsHttp field.content
    · rw [readHeader_http http]
      simp
    · obtain ⟨pos, found⟩ := Bytes.find_of_within field.separator_within
      rw [readHeader_of_not_beginsHttp http, found]
      simp

end BackendField

section Fields

variable (platform : Platform)

/-- The section is written with one pseudo-header, its status. -/
def OneStatus (exchange : Exchange) (status : StatusLine) (fields : List BackendField) : Prop :=
  ∃ block length, Writes platform exchange (sectionOf status (fields.map BackendField.line))
      block length ∧
    block.pseudo = [(ascii ":status", status.code)]

/-- No field has the key of a pseudo-header other than the status. -/
def NoOtherPseudo (fields : List BackendField) : Prop :=
  ∀ field ∈ fields, ¬ BeginsHttp field.content → (field.key platform).head? = some 58 →
    field.key platform = ascii ":status"

/-- The last field that is taken for a status line has the code behind its first space,
and no field after it has the key of the status. -/
def StatusStands (code : Bytes) (fields : List BackendField) : Prop :=
  AtEachPlace (fun _ field after =>
    (∀ later ∈ after, ¬ BeginsHttp later.content) →
      if BeginsHttp field.content then field.codeSlice = code
      else field.key platform ≠ ascii ":status") fields

/-- Keep a field in the block. -/
def storeField (block : SpdyHeaderBlock) (field : BackendField) : SpdyHeaderBlock :=
  QuicProxyCurl.store platform block (readHeader field.content)

/-- What a field makes of the status. -/
def nextStatus (code : Bytes) (field : BackendField) : Bytes :=
  if BeginsHttp field.content then field.codeSlice
  else if field.key platform = ascii ":status" then code ++ [nul] ++ field.kept
  else code

/-! ## One field -/

/-- A field that is no other pseudo-header leaves `:status` the only one. -/
theorem pseudo_storeField {block : SpdyHeaderBlock} {code : Bytes} {field : BackendField}
    (only : block.pseudo = [(ascii ":status", code)])
    (allowed : ¬ BeginsHttp field.content → (field.key platform).head? = some 58 →
      field.key platform = ascii ":status") :
    (storeField platform block field).pseudo =
      [(ascii ":status", nextStatus platform code field)] := by
  rw [storeField, nextStatus]
  by_cases http : BeginsHttp field.content
  · rw [if_pos http, BackendField.readHeader_http http]
    exact block.pseudo_upsert_only _ _ only
  · rw [if_neg http, BackendField.store_readHeader http]
    by_cases isStatus : field.key platform = ascii ":status"
    · have separator : SpdyHeaderBlock.separatorForKey (ascii ":status") = [nul] := by
        decide +kernel
      rw [if_pos isStatus, isStatus, SpdyHeaderBlock.appendValueOrAddHeader, separator]
      exact block.pseudo_upsert_only _ _ only
    · have plain : (field.key platform).head? ≠ some 58 :=
        fun pseudo => isStatus (allowed http pseudo)
      rw [if_neg isStatus, SpdyHeaderBlock.appendValueOrAddHeader,
        block.pseudo_upsert_plain _ _ plain, only]

/-- Storing a field takes no name away, and a field that is no status line leaves its
key. -/
theorem names_storeField (block : SpdyHeaderBlock) (field : BackendField) :
    (∀ name ∈ block.names, name ∈ (storeField platform block field).names) ∧
      (¬ BeginsHttp field.content → field.key platform ∈ (storeField platform block field).names)
    := by
  rw [storeField]
  by_cases http : BeginsHttp field.content
  · rw [BackendField.readHeader_http http]
    refine ⟨fun name member => ?_, fun notHttp => absurd http notHttp⟩
    exact (block.mem_names_upsert _ name _ _).mpr (.inl member)
  · rw [BackendField.store_readHeader http]
    refine ⟨fun name member => ?_, fun _ => ?_⟩
    · exact (block.mem_names_upsert _ name _ _).mpr (.inl member)
    · exact (block.mem_names_upsert _ _ _ _).mpr (.inr rfl)

/-! ## All fields -/

/-- With keys that are allowed the status is all there is. -/
theorem pseudo_storeFields {block : SpdyHeaderBlock} {code : Bytes} {fields : List BackendField}
    (only : block.pseudo = [(ascii ":status", code)]) (allowed : NoOtherPseudo platform fields) :
    (fields.foldl (storeField platform) block).pseudo =
      [(ascii ":status", fields.foldl (nextStatus platform) code)] := by
  induction fields generalizing block code with
  | nil => exact only
  | cons field rest ih =>
      obtain ⟨here, later⟩ := List.forall_mem_cons.mp allowed
      exact ih (pseudo_storeField platform only here) later

/-- No name is lost, and each field's key is there. -/
theorem names_storeFields (block : SpdyHeaderBlock) (fields : List BackendField) :
    (∀ name ∈ block.names, name ∈ (fields.foldl (storeField platform) block).names) ∧
      ∀ field ∈ fields, ¬ BeginsHttp field.content →
        field.key platform ∈ (fields.foldl (storeField platform) block).names := by
  induction fields generalizing block with
  | nil => simp
  | cons field rest ih =>
      obtain ⟨stays, enters⟩ := names_storeField platform block field
      obtain ⟨kept, entered⟩ := ih (storeField platform block field)
      refine ⟨fun name member => kept name (stays name member), ?_⟩
      rw [List.forall_mem_cons]
      exact ⟨fun notHttp => kept _ (enters notHttp), entered⟩

/-- A pseudo-header's name in the block is one of the pseudo-headers. -/
theorem eq_status_of_names {block : SpdyHeaderBlock} {code name : Bytes}
    (only : block.pseudo = [(ascii ":status", code)]) (member : name ∈ block.names)
    (isPseudo : name.head? = some 58) : name = ascii ":status" := by
  obtain ⟨entry, inBlock, rfl⟩ := List.mem_map.mp member
  have inPseudo : entry ∈ block.pseudo :=
    List.mem_filter.mpr ⟨inBlock, decide_eq_true isPseudo⟩
  rw [only, List.mem_singleton] at inPseudo
  rw [inPseudo]

/-- The status is the code at the end exactly when nothing after the last status line
touches it. -/
theorem status_stands_iff {code : Bytes} (noNul : nul ∉ code) (fields : List BackendField) :
    fields.foldl (nextStatus platform) code = code ↔ StatusStands platform code fields := by
  induction fields using List.reverseRecOn with
  | nil => simp [StatusStands]
  | append_singleton fields field ih =>
      rw [List.foldl_append, List.foldl_cons, List.foldl_nil, StatusStands, atEachPlace_concat,
        nextStatus]
      -- what stands before a status line has one after it; behind any other field the
      -- fields before are where they were
      by_cases http : BeginsHttp field.content
      · simp only [if_pos http, List.not_mem_nil, false_imp_iff, implies_true, true_imp_iff,
          List.mem_append, List.mem_singleton]
        constructor
        · intro equal
          refine ⟨equal, fun before earlier after _ none => ?_⟩
          exact absurd http (none field (.inr rfl))
        · exact And.left
      · have same : AtEachPlace (fun _ earlier after =>
            (∀ later ∈ after ++ [field], ¬ BeginsHttp later.content) →
              if BeginsHttp earlier.content then earlier.codeSlice = code
              else earlier.key platform ≠ ascii ":status") fields ↔
            StatusStands platform code fields := by
          simp only [StatusStands, List.forall_mem_append, List.forall_mem_singleton,
            http, not_false_eq_true, and_true]
        simp only [if_neg http, List.not_mem_nil, false_imp_iff, implies_true, true_imp_iff]
        rw [same, ← ih]
        by_cases isStatus : field.key platform = ascii ":status"
        · rw [if_pos isStatus]
          constructor
          · intro equal
            apply absurd _ noNul
            rw [← equal]
            simp
          · rintro ⟨differs, _⟩
            exact absurd isStatus differs
        · rw [if_neg isStatus]
          exact ⟨fun equal => ⟨isStatus, equal⟩, And.right⟩

/-! ## A section -/

/-- A section read as its fields. -/
theorem fields_backendFields (status : StatusLine) (fields : List BackendField) :
    (sectionOf status (fields.map BackendField.line)).fields platform =
      fields.foldl (storeField platform) (statusBlock status.code) := by
  rw [fields_sectionOf, List.foldl_map]
  rfl

/-- A status line makes a single pseudo-header. -/
theorem pseudo_statusBlock (code : Bytes) :
    (statusBlock code).pseudo = [(ascii ":status", code)] := rfl

/-- A status code has no NUL. -/
theorem StatusLine.noNul (status : StatusLine) : nul ∉ status.code := by
  intro member
  have digit := status.digits nul member
  revert digit
  decide

/-- The status is the only pseudo-header, and right, exactly when no field has the key
of another one and the status stands after the last field taken for a status line. -/
theorem oneStatus_iff (exchange : Exchange) (status : StatusLine) (fields : List BackendField)
    (attached : exchange.proxy.quicStream ≠ none) (fresh : exchange.proxy.spdyHeaders = .empty) :
    OneStatus platform exchange status fields ↔
      NoOtherPseudo platform fields ∧ StatusStands platform status.code fields := by
  have written : OneStatus platform exchange status fields ↔
      (fields.foldl (storeField platform) (statusBlock status.code)).pseudo =
        [(ascii ":status", status.code)] := by
    rw [OneStatus, ← fields_backendFields]
    constructor
    · rintro ⟨block, length, writes, only⟩
      rw [writes_iff platform exchange status _ _ _ attached fresh] at writes
      rw [← writes.1, only]
    · intro only
      have writes := (writes_iff platform exchange status (fields.map BackendField.line) _ _
        attached fresh).mpr ⟨rfl, rfl⟩
      exact ⟨_, _, writes, only⟩
  rw [written]
  constructor
  · intro only
    have allowed : NoOtherPseudo platform fields := by
      intro field member notHttp isPseudo
      have entered := (names_storeFields platform (statusBlock status.code) fields).2 field member
      exact eq_status_of_names only (entered notHttp) isPseudo
    refine ⟨allowed, (status_stands_iff platform status.noNul fields).mp ?_⟩
    have values := pseudo_storeFields platform (pseudo_statusBlock status.code) allowed
    rw [only] at values
    simpa using values.symm
  · rintro ⟨allowed, stands⟩
    rw [pseudo_storeFields platform (pseudo_statusBlock status.code) allowed,
      (status_stands_iff platform status.noNul fields).mpr stands]

end Fields

/-- `HTTP/1.1 403 Forbidden` -/
def forbiddenLine : StatusLine :=
  .http11 (ascii "403") (ascii " Forbidden") rfl (by decide +kernel)

/-- A field the backend may well send. -/
def httpNamedField : BackendField := ⟨ascii "HTTP-Version", ascii "200"⟩

/-- A field named like a status line. -/
theorem oneStatus_iff_httpNamedField :
    OneStatus Platform.chromium (.start 0 0 (ascii "http://localhost/")) forbiddenLine
        [httpNamedField] ↔
      NoOtherPseudo Platform.chromium [httpNamedField] ∧
        StatusStands Platform.chromium forbiddenLine.code [httpNamedField] :=
  oneStatus_iff Platform.chromium _ forbiddenLine [httpNamedField] (by decide +kernel) rfl

/-- A field turns the status into its own value: the refusal goes out as a success. -/
theorem status_replaced :
    Writes Platform.chromium (.start 0 0 (ascii "http://localhost/"))
        (sectionOf forbiddenLine [httpNamedField.line]) (statusBlock (ascii "200")) 0 ∧
      ¬ ∀ (status : StatusLine) (fields : List BackendField),
        OneStatus Platform.chromium (.start 0 0 (ascii "http://localhost/")) status fields := by
  have written : Writes Platform.chromium (.start 0 0 (ascii "http://localhost/"))
      (sectionOf forbiddenLine [httpNamedField.line]) (statusBlock (ascii "200")) 0 := by
    rw [writes_iff Platform.chromium _ forbiddenLine _ _ _ (by decide +kernel) rfl]
    decide +kernel
  refine ⟨written, fun claimed => ?_⟩
  obtain ⟨block, length, writes, only⟩ := claimed forbiddenLine [httpNamedField]
  rw [writes_iff Platform.chromium _ forbiddenLine _ _ _ (by decide +kernel) rfl] at writes
  rw [writes.1] at only
  revert only
  decide +kernel

end QuicProxy
