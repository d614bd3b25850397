import UsbDescriptors.Proofs.Classes.Objects
import UsbDescriptors.Proofs.Outputs.Tokens

/-!
# Objects in header and source

What the header declares and what the source constructs and lists is read here from the tokens of
the two texts, by the rules of C++ and without regard to how the texts are put together. The readers
accept nothing but declarations in the header, and nothing but objects and namespaces with arrays in
the source, so whatever they find is all that the texts say.

Both readers find the objects of the registry, each of them once.
-/

namespace UsbDescriptors

open CSource

/-- An object as a header declares it. -/
structure Declared where
  scope : String
  label : String
  tag : String
deriving DecidableEq, Repr

/-- The declarations of a header that holds nothing else. -/
def declarations? : List Token → Option (List Declared)
  | [] => some []
  | .word "extern" :: .word scope :: .sign ':' :: .sign ':' :: .word label :: .word tag ::
      .sign ';' :: rest => (declarations? rest).map (⟨scope, label, tag⟩ :: ·)
  | _ => none

/-- The number that a word of decimal digits stands for. -/
def decimal? (word : String) : Option Nat :=
  if word ≠ "" ∧ word.toList.all Char.isDigit = true then some (Nat.ofDigitChars 10 word.toList 0)
  else none

theorem decimal?_toString (number : Nat) : decimal? (toString number) = some number := by
  have digits : (toString number).toList = Nat.toDigits 10 number := by
    rw [Nat.toString_eq_repr, Nat.toList_repr]
  have all : (Nat.toDigits 10 number).all Char.isDigit = true :=
    List.all_eq_true.mpr fun c mem => Nat.isDigit_of_mem_toDigits (by decide) (by decide) mem
  rw [decimal?, digits, if_pos ⟨by simp, all⟩, Nat.ofDigitChars_ten_toDigits]

/-- What a source does with an object. -/
inductive Definition where
  /-- It is constructed from a number and a name. -/
  | object (scope label tag : String) (ordinal : Nat) (name : String)
  /-- Its address is listed in an array of its namespace. -/
  | address (scope label array tag : String)
deriving DecidableEq, Repr

/-- What stands around a definition. -/
inductive Surroundings where
  | outside
  | inside (scope : String)
  | array (scope label array : String)

/-- The definitions of a source that holds nothing but objects, and namespaces with arrays. -/
def definitions? : Surroundings → List Token → Option (List Definition)
  | .outside, [] => some []
  | .outside, .word scope :: .sign ':' :: .sign ':' :: .word label :: .word tag :: .sign '(' ::
      .word number :: .sign ',' :: .literal name :: .sign ')' :: .sign ';' :: rest =>
      (decimal? number).bind fun ordinal =>
        (definitions? .outside rest).map (.object scope label tag ordinal name :: ·)
  | .outside, .word "namespace" :: .word scope :: .sign '\x7b' :: rest =>
      definitions? (.inside scope) rest
  | .inside scope, .word label :: .sign '*' :: .word array :: .sign '[' :: .sign ']' ::
      .sign '\x7b' :: rest => definitions? (.array scope label array) rest
  | .inside _, .sign '\x7d' :: rest => definitions? .outside rest
  | .array scope label array, .sign '&' :: .word tag :: .sign ',' :: rest =>
      (definitions? (.array scope label array) rest).map (.address scope label array tag :: ·)
  | .array scope _ _, .sign '\x7d' :: .sign ';' :: rest => definitions? (.inside scope) rest
  | _, _ => none

namespace ClassEntry

/-- The array of a namespace that lists the object. -/
def array (entry : ClassEntry) : String :=
  if entry.host then "host_devices" else "devices"

def declared (entry : ClassEntry) : Declared :=
  ⟨entry.scope, entry.label, entry.tag⟩

def constructed (entry : ClassEntry) : Definition :=
  .object entry.scope entry.label entry.tag entry.ordinal entry.tag

def listed (entry : ClassEntry) : Definition :=
  .address entry.scope entry.label entry.array entry.tag

/-- The namespace and the tag can be names in C++. -/
structure Named (entry : ClassEntry) : Prop where
  scope : IsName entry.scope
  tag : IsName entry.tag

def declarationTokens (entry : ClassEntry) : List Token :=
  [.word "extern", .word entry.scope, .sign ':', .sign ':', .word entry.label, .word entry.tag,
    .sign ';']

def definitionTokens (entry : ClassEntry) : List Token :=
  [.word entry.scope, .sign ':', .sign ':', .word entry.label, .word entry.tag, .sign '(',
    .word (toString entry.ordinal), .sign ',', .literal entry.tag, .sign ')', .sign ';']

def addressTokens (entry : ClassEntry) : List Token :=
  [.sign '&', .word entry.tag, .sign ',']

variable {entry : ClassEntry}

theorem isName_label (entry : ClassEntry) : IsName entry.label := by
  unfold label
  split <;> decide

theorem reads_declaration (named : entry.Named) :
    Reads (entry.declaration ++ "\n") entry.declarationTokens := by
  intro rest
  have text : (entry.declaration ++ "\n").toList ++ rest = "extern".toList ++ ' ' ::
      (entry.scope.toList ++ ':' :: ':' :: (entry.label.toList ++ ' ' ::
        (entry.tag.toList ++ ';' :: '\n' :: rest))) := by
    simp [declaration]
  have keyword : IsName "extern" := by decide
  rw [text, tokens_word keyword (by decide), tokens_space (by decide),
    tokens_word named.scope (by decide), tokens_sign (by decide), tokens_sign (by decide),
    tokens_word entry.isName_label (by decide), tokens_space (by decide),
    tokens_word named.tag (by decide), tokens_sign (by decide), tokens_space (by decide)]
  rfl

theorem reads_definition (named : entry.Named) :
    Reads (entry.definition ++ "\n") entry.definitionTokens := by
  intro rest
  have text : (entry.definition ++ "\n").toList ++ rest = entry.scope.toList ++ ':' :: ':' ::
      (entry.label.toList ++ ' ' :: (entry.tag.toList ++ '(' ::
        ((toString entry.ordinal).toList ++ ',' :: ' ' ::
          '"' :: (entry.tag.toList ++ '"' :: ')' :: ';' :: '\n' :: rest)))) := by
    simp [definition]
  have number : IsName (toString entry.ordinal) :=
    ⟨identifierTail_toString entry.ordinal, by simp⟩
  have free : '"' ∉ entry.tag.toList := fun mem => absurd (named.tag.characters _ mem) (by decide)
  rw [text, tokens_word named.scope (by decide), tokens_sign (by decide), tokens_sign (by decide),
    tokens_word entry.isName_label (by decide), tokens_space (by decide),
    tokens_word named.tag (by decide), tokens_sign (by decide), tokens_word number (by decide),
    tokens_sign (by decide), tokens_space (by decide), tokens_literal free,
    tokens_sign (by decide), tokens_sign (by decide), tokens_space (by decide)]
  rfl

theorem reads_address (named : entry.Named) :
    Reads ("\t&" ++ entry.tag ++ "," ++ "\n") entry.addressTokens := by
  intro rest
  have text : ("\t&" ++ entry.tag ++ "," ++ "\n").toList ++ rest =
      '\t' :: '&' :: (entry.tag.toList ++ ',' :: '\n' :: rest) := by
    simp
  rw [text, tokens_space (by decide), tokens_sign (by decide),
    tokens_word named.tag (by decide), tokens_sign (by decide), tokens_space (by decide)]
  rfl

end ClassEntry

namespace ClassRegistry

variable {registry : ClassRegistry} {scope label array : String} {entries : List ClassEntry}

/-- What the header says about a registry. -/
def declaredObjects (registry : ClassRegistry) : List Declared :=
  registry.scopes.flatMap fun scope => (registry.group scope).map ClassEntry.declared

/-- What the source does with the objects of a namespace. -/
def definitionsOf (registry : ClassRegistry) (scope : String) : List Definition :=
  (registry.devices scope ++ registry.hosts scope).map ClassEntry.constructed ++
    (registry.devices scope ++ registry.hosts scope).map ClassEntry.listed

/-- What the source says about a registry. -/
def definedObjects (registry : ClassRegistry) : List Definition :=
  registry.scopes.flatMap registry.definitionsOf

def arrayTokens (label array : String) (entries : List ClassEntry) : List Token :=
  if entries.isEmpty then []
  else
    [.word label, .sign '*', .word array, .sign '[', .sign ']', .sign '\x7b'] ++
      entries.flatMap ClassEntry.addressTokens ++ [.sign '\x7d', .sign ';']

def definitionTokens (registry : ClassRegistry) (scope : String) : List Token :=
  (registry.devices scope ++ registry.hosts scope).flatMap ClassEntry.definitionTokens ++
    [.word "namespace", .word scope, .sign '\x7b'] ++
    arrayTokens "Device" "devices" (registry.devices scope) ++
    arrayTokens "HostDevice" "host_devices" (registry.hosts scope) ++ [.sign '\x7d']

theorem of_mem_devices (registry : ClassRegistry) : ∀ entry ∈ registry.devices scope,
    entry.scope = scope ∧ entry.label = "Device" ∧ entry.array = "devices" := by
  intro entry mem
  rcases List.mem_filter.mp mem with ⟨inGroup, device⟩
  have notHost : entry.host = false := by simpa using device
  have own := registry.arranges.own scope entry inGroup
  exact ⟨own, by rw [ClassEntry.label, notHost]; rfl, by rw [ClassEntry.array, notHost]; rfl⟩

theorem of_mem_hosts (registry : ClassRegistry) : ∀ entry ∈ registry.hosts scope,
    entry.scope = scope ∧ entry.label = "HostDevice" ∧ entry.array = "host_devices" := by
  intro entry mem
  rcases List.mem_filter.mp mem with ⟨inGroup, host⟩
  have own := registry.arranges.own scope entry inGroup
  exact ⟨own, if_pos host, if_pos host⟩

section Texts

/-- Lines that are written for objects are read one after the other. -/
theorem reads_lines {line : ClassEntry → String} {read : ClassEntry → List Token}
    (each : ∀ entry ∈ entries, Reads (line entry ++ "\n") (read entry)) :
    Reads (unlines (entries.map line)) (entries.flatMap read) := by
  rw [List.flatMap_def]
  apply reads_unlines
  rw [List.forall₂_map_left_iff, List.forall₂_map_right_iff, List.forall₂_same]
  exact each

/-- A comment that ends in a name. -/
theorem reads_comment {front name : String} (single : SingleLine front)
    (free : '\\' ∉ front.toList) (isName : IsName name) :
    Reads ("//" ++ front ++ name ++ "\n") [] := by
  intro rest
  have text : ("//" ++ front ++ name ++ "\n").toList ++ rest =
      '/' :: '/' :: ((front ++ name).toList ++ '\n' :: rest) := by
    simp
  have whole : SingleLine (front ++ name) :=
    singleLine_append.mpr ⟨single, isName.characters.singleLine⟩
  have last : (front ++ name).toList.getLast? ≠ some '\\' := by
    intro ending
    have mem := List.mem_of_getLast? ending
    rw [String.toList_append, List.mem_append] at mem
    rcases mem with inFront | inside
    · exact free inFront
    · exact absurd (isName.characters _ inside) (by decide)
  rw [text, tokens_comment whole last]
  rfl

theorem reads_array (isLabel : IsName label) (isArray : IsName array)
    (named : ∀ entry ∈ entries, entry.Named) :
    Reads (unlines (arrayLines label array entries)) (arrayTokens label array entries) := by
  unfold arrayLines arrayTokens
  split
  next => exact reads_empty
  next =>
    have opening : Reads (unlines [label ++ "* " ++ array ++ "[]\x7b"])
        [.word label, .sign '*', .word array, .sign '[', .sign ']', .sign '\x7b'] := by
      intro rest
      have text : (unlines [label ++ "* " ++ array ++ "[]\x7b"]).toList ++ rest =
          label.toList ++ '*' :: ' ' :: (array.toList ++ '[' :: ']' :: '\x7b' :: '\n' :: rest) := by
        simp [unlines]
      rw [text, tokens_word isLabel (by decide), tokens_sign (by decide), tokens_space (by decide),
        tokens_word isArray (by decide), tokens_sign (by decide), tokens_sign (by decide),
        tokens_sign (by decide), tokens_space (by decide)]
      rfl
    have closing : Reads (unlines ["\x7d;"]) [.sign '\x7d', .sign ';'] := by
      intro rest
      have text : (unlines ["\x7d;"]).toList ++ rest = '\x7d' :: ';' :: '\n' :: rest := by
        simp [unlines]
      rw [text, tokens_sign (by decide), tokens_sign (by decide), tokens_space (by decide)]
      rfl
    rw [unlines_append, unlines_append]
    have addresses := reads_lines fun entry mem => ClassEntry.reads_address (named entry mem)
    exact (opening.append addresses).append closing

theorem reads_declarationLines (isScope : IsName scope)
    (named : ∀ entry ∈ registry.group scope, entry.Named) :
    Reads (unlines (registry.declarationLines scope))
      ((registry.group scope).flatMap ClassEntry.declarationTokens) := by
  have opening : "// " = "//" ++ " " := by decide
  rw [declarationLines, unlines_cons, opening]
  exact (reads_comment (by decide) (by decide) isScope).append
    (reads_lines fun entry mem => ClassEntry.reads_declaration (named entry mem))

theorem reads_definitionLines (isScope : IsName scope)
    (named : ∀ entry ∈ registry.group scope, entry.Named) :
    Reads (unlines (registry.definitionLines scope)) (registry.definitionTokens scope) := by
  have devices : ∀ entry ∈ registry.devices scope, entry.Named :=
    fun entry mem => named entry (List.mem_filter.mp mem).1
  have hosts : ∀ entry ∈ registry.hosts scope, entry.Named :=
    fun entry mem => named entry (List.mem_filter.mp mem).1
  have objects := reads_lines fun entry mem =>
    ClassEntry.reads_definition (List.forall_mem_append.mpr ⟨devices, hosts⟩ entry mem)
  have opening : Reads (unlines ["", "namespace " ++ scope, "\x7b"])
      [.word "namespace", .word scope, .sign '\x7b'] := by
    intro rest
    have text : (unlines ["", "namespace " ++ scope, "\x7b"]).toList ++ rest = '\n' ::
        ("namespace".toList ++ ' ' :: (scope.toList ++ '\n' :: '\x7b' :: '\n' :: rest)) := by
      simp [unlines]
    have keyword : IsName "namespace" := by decide
    rw [text, tokens_space (by decide), tokens_word keyword (by decide), tokens_space (by decide),
      tokens_word isScope (by decide), tokens_space (by decide), tokens_sign (by decide),
      tokens_space (by decide)]
    rfl
  have deviceArray : Reads (unlines (arrayLines "Device" "devices" (registry.devices scope)))
      (arrayTokens "Device" "devices" (registry.devices scope)) :=
    reads_array (by decide) (by decide) devices
  have hostArray : Reads (unlines (arrayLines "HostDevice" "host_devices" (registry.hosts scope)))
      (arrayTokens "HostDevice" "host_devices" (registry.hosts scope)) :=
    reads_array (by decide) (by decide) hosts
  have closing : Reads (unlines ["\x7d // namespace " ++ scope]) [.sign '\x7d'] := by
    have split : unlines ["\x7d // namespace " ++ scope] =
        "\x7d " ++ ("//" ++ " namespace " ++ scope ++ "\n") := by
      apply String.toList_injective
      simp [unlines]
    have brace : Reads "\x7d " [.sign '\x7d'] := by
      intro rest
      have text : "\x7d ".toList ++ rest = '\x7d' :: ' ' :: rest := rfl
      rw [text, tokens_sign (by decide), tokens_space (by decide)]
      rfl
    rw [split]
    exact brace.append (reads_comment (by decide) (by decide) isScope)
  rw [definitionLines, unlines_append, unlines_append, unlines_append, unlines_append]
  exact (((objects.append opening).append deviceArray).append hostArray).append closing

/-- The groups of a text are read one after the other, and nothing is read if there are none. -/
theorem reads_grouped {lines : String → List String} {read : String → List Token}
    (each : ∀ scope ∈ registry.scopes, Reads (unlines (lines scope)) (read scope)) :
    Reads (registry.grouped lines) (registry.scopes.flatMap read) := by
  unfold grouped
  split
  next empty =>
    have none : registry.scopes = [] := by
      rw [scopes, List.isEmpty_iff.mp empty]
      rfl
    have comment : "// none\n" = "//" ++ " " ++ "none" ++ "\n" := by decide
    rw [none, comment]
    exact reads_comment (by decide) (by decide) (by decide)
  next =>
    rw [List.flatMap_def]
    apply reads_joined
    rw [List.forall₂_map_left_iff, List.forall₂_map_right_iff, List.forall₂_same]
    exact each

end Texts

section Readers

variable {rest : List Token}

theorem declarations?_append (entries : List ClassEntry) :
    declarations? (entries.flatMap ClassEntry.declarationTokens ++ rest) =
      (declarations? rest).map (entries.map ClassEntry.declared ++ ·) := by
  induction entries with
  | nil => simp
  | cons entry more ih =>
      rw [List.flatMap_cons, List.append_assoc, ClassEntry.declarationTokens]
      simp only [List.cons_append, List.nil_append, declarations?, ih, Option.map_map]
      rfl

theorem definitions?_objects (entries : List ClassEntry) :
    definitions? .outside (entries.flatMap ClassEntry.definitionTokens ++ rest) =
      (definitions? .outside rest).map (entries.map ClassEntry.constructed ++ ·) := by
  induction entries with
  | nil => simp
  | cons entry more ih =>
      rw [List.flatMap_cons, List.append_assoc, ClassEntry.definitionTokens]
      simp only [List.cons_append, List.nil_append, definitions?, decimal?_toString,
        Option.bind_some, ih, Option.map_map]
      rfl

/-- The addresses of an array, up to its end. -/
theorem definitions?_addresses (same : ∀ entry ∈ entries,
      entry.scope = scope ∧ entry.label = label ∧ entry.array = array) :
    definitions? (.array scope label array) (entries.flatMap ClassEntry.addressTokens ++ rest) =
      (definitions? (.array scope label array) rest).map (entries.map ClassEntry.listed ++ ·) := by
  induction entries with
  | nil => simp
  | cons entry more ih =>
      rcases List.forall_mem_cons.mp same with ⟨⟨ownScope, ownLabel, ownArray⟩, others⟩
      rw [List.flatMap_cons, List.append_assoc, ClassEntry.addressTokens]
      simp only [List.cons_append, List.nil_append, definitions?, ih others, Option.map_map]
      rw [List.map_cons, ClassEntry.listed, ownScope, ownLabel, ownArray]
      rfl

theorem definitions?_array (same : ∀ entry ∈ entries,
      entry.scope = scope ∧ entry.label = label ∧ entry.array = array) :
    definitions? (.inside scope) (arrayTokens label array entries ++ rest) =
      (definitions? (.inside scope) rest).map (entries.map ClassEntry.listed ++ ·) := by
  unfold arrayTokens
  split
  next empty => simp [List.isEmpty_iff.mp empty]
  next =>
    simp only [List.append_assoc, List.cons_append, List.nil_append, definitions?,
      definitions?_addresses same]

theorem definitions?_group (registry : ClassRegistry) (scope : String) :
    definitions? .outside (registry.definitionTokens scope ++ rest) =
      (definitions? .outside rest).map (registry.definitionsOf scope ++ ·) := by
  rw [definitionTokens]
  simp only [List.append_assoc, definitions?_objects]
  simp only [List.cons_append, List.nil_append, definitions?, definitions?_array registry.of_mem_devices,
    definitions?_array registry.of_mem_hosts, Option.map_map, definitionsOf, List.map_append, List.append_assoc]
  rfl

end Readers

theorem declarations?_declarations (registry : ClassRegistry) :
    declarations? (registry.scopes.flatMap fun scope =>
      (registry.group scope).flatMap ClassEntry.declarationTokens) =
        some registry.declaredObjects := by
  have whole := @declarations?_append [] (registry.scopes.flatMap registry.group)
  rw [List.append_nil, List.flatMap_assoc, List.map_flatMap] at whole
  simpa [declarations?, declaredObjects] using whole

theorem definitions?_definitions (registry : ClassRegistry) :
    definitions? .outside (registry.scopes.flatMap registry.definitionTokens) =
      some registry.definedObjects := by
  rw [definedObjects]
  induction registry.scopes with
  | nil => simp [definitions?]
  | cons scope rest ih => rw [List.flatMap_cons, definitions?_group, ih]; rfl

/-- A text of blocks of lines with an empty line between them, or a comment if there are none. -/
def blocksOrNone (blocks : List (List String)) : String :=
  if blocks = [] then "// none\n" else joined "\n" (blocks.map unlines)

/-- The two texts are put together from the same groups. Every object stands once in each, and once
in all arrays together, in the array of its kind in its own namespace. -/
structure Writes (registry : ClassRegistry) : Prop where
  declarations : registry.declarations = blocksOrNone (registry.scopes.map fun scope =>
    ("// " ++ scope) :: (registry.group scope).map ClassEntry.declaration)
  definitions : registry.definitions = blocksOrNone (registry.scopes.map fun scope =>
    (registry.devices scope ++ registry.hosts scope).map ClassEntry.definition ++
      ["", "namespace " ++ scope, "\x7b"] ++
      arrayLines "Device" "devices" (registry.devices scope) ++
      arrayLines "HostDevice" "host_devices" (registry.hosts scope) ++
      ["\x7d // namespace " ++ scope])
  declaredOnce : (registry.scopes.flatMap fun scope =>
    (registry.group scope).map ClassEntry.declaration).Perm
      (registry.entries.map ClassEntry.declaration)
  definedOnce : (registry.scopes.flatMap fun scope =>
    (registry.devices scope ++ registry.hosts scope).map ClassEntry.definition).Perm
      (registry.entries.map ClassEntry.definition)
  listedOnce : (registry.scopes.flatMap fun scope =>
    (registry.devices scope).map (scope, "devices", ·) ++
      (registry.hosts scope).map (scope, "host_devices", ·)).Perm
      (registry.entries.map fun entry => (entry.scope, entry.array, entry))

/-- What the two texts say in C++: the header declares every object once, and the source constructs
every object once and lists it once, in the array of its kind in its own namespace. -/
structure Describes (registry : ClassRegistry) : Prop where
  declared : declarations? (tokensOf registry.declarations) = some registry.declaredObjects
  defined : definitions? .outside (tokensOf registry.definitions) = some registry.definedObjects
  eachDeclared : registry.declaredObjects.Perm (registry.entries.map ClassEntry.declared)
  eachDefined : registry.definedObjects.Perm
    (registry.entries.map ClassEntry.constructed ++ registry.entries.map ClassEntry.listed)

theorem grouped_eq (registry : ClassRegistry) (lines : String → List String) :
    registry.grouped lines = blocksOrNone (registry.scopes.map lines) := by
  have empty : registry.entries.isEmpty = true ↔ registry.scopes.map lines = [] := by
    rw [List.isEmpty_iff, List.map_eq_nil_iff, scopes]
    cases registry.entries <;> simp [List.eraseDups_cons]
  simp only [grouped, blocksOrNone, empty, List.map_map]
  rfl

/-- What is written for the two parts of every group is written for every object. -/
theorem perm_parted {α : Type} (registry : ClassRegistry) (write : ClassEntry → α) :
    (registry.scopes.flatMap fun scope =>
      (registry.devices scope ++ registry.hosts scope).map write).Perm
        (registry.entries.map write) := by
  have parted : (registry.scopes.flatMap fun scope =>
      registry.devices scope ++ registry.hosts scope).Perm registry.entries :=
    (List.Perm.flatMap_left _ fun scope _ => registry.arranges.parted scope).trans
      registry.arranges.whole
  rw [← List.map_flatMap]
  exact parted.map write

theorem perm_grouped {α : Type} (registry : ClassRegistry) (write : ClassEntry → α) :
    (registry.scopes.flatMap fun scope => (registry.group scope).map write).Perm
      (registry.entries.map write) := by
  rw [← List.map_flatMap]
  exact registry.arranges.whole.map write

theorem writes (registry : ClassRegistry) : registry.Writes := by
  refine ⟨registry.grouped_eq _, registry.grouped_eq _, registry.perm_grouped _,
    registry.perm_parted _, ?_⟩
  have places (scope : String) : (registry.devices scope).map (scope, "devices", ·) ++
      (registry.hosts scope).map (scope, "host_devices", ·) =
        (registry.devices scope ++ registry.hosts scope).map fun entry =>
          (entry.scope, entry.array, entry) := by
    rw [List.map_append]
    congr 1
    · refine List.map_congr_left fun entry mem => ?_
      rcases registry.of_mem_devices entry mem with ⟨own, -, array⟩
      rw [own, array]
    · refine List.map_congr_left fun entry mem => ?_
      rcases registry.of_mem_hosts entry mem with ⟨own, -, array⟩
      rw [own, array]
  simp only [places]
  exact registry.perm_parted _

theorem describes (named : ∀ entry ∈ registry.entries, entry.Named) : registry.Describes := by
  have inGroup (scope : String) : ∀ entry ∈ registry.group scope, entry.Named :=
    fun entry mem => named entry (List.mem_filter.mp mem).1
  have isScope : ∀ scope ∈ registry.scopes, IsName scope := by
    intro scope mem
    rcases List.mem_map.mp (List.mem_eraseDups.mp mem) with ⟨entry, entryMem, rfl⟩
    exact (named entry entryMem).scope
  constructor
  · have reads := reads_grouped fun scope mem =>
      reads_declarationLines (isScope scope mem) (inGroup scope)
    rw [declarations, reads.tokensOf, declarations?_declarations]
  · have reads := reads_grouped fun scope mem =>
      reads_definitionLines (isScope scope mem) (inGroup scope)
    rw [definitions, reads.tokensOf, definitions?_definitions]
  · exact registry.perm_grouped _
  · have objects := registry.perm_parted ClassEntry.constructed
    have addresses := registry.perm_parted ClassEntry.listed
    exact (List.flatMap_append_perm _ _ _).symm.trans (objects.append addresses)

/-- Objects keep the names of what was added. -/
theorem Keeps.named {additions : List ClassAddition} (keeps : registry.Keeps additions)
    (names : ∀ addition ∈ additions, IsName addition.scope ∧ IsName addition.tag) :
    ∀ entry ∈ registry.entries, entry.Named := by
  intro entry mem
  rw [keeps.entries, List.mem_mapIdx] at mem
  rcases mem with ⟨index, inside, rfl⟩
  have own := names additions[index] (List.getElem_mem inside)
  constructor
  · rw [ClassAddition.scope_object]
    exact own.1
  · rw [ClassAddition.tag_object]
    exact own.2

/-- Whatever is added to the empty registry, its two texts describe the same objects: one for every
addition, in groups of one namespace. If namespaces and tags can be names in C++, this is what is
read from the texts: every object is declared once, constructed once, and listed once in its own
array. -/
theorem objects_after (additions : List ClassAddition) :
    (empty.after additions).Keeps additions ∧ (empty.after additions).Arranges ∧
      (empty.after additions).Writes ∧
      ((∀ addition ∈ additions, IsName addition.scope ∧ IsName addition.tag) →
        (empty.after additions).Describes) := by
  have keeps := keeps_after additions
  exact ⟨keeps, arranges _, writes _, fun names => describes (keeps.named names)⟩

/-- Two namespaces whose objects are added in turns. -/
def mixedAdditions : List ClassAddition :=
  [.device "CDC" "cdc0" 0, .host "HID" "hid", .device "CDC" "cdc1" 1, .device "HID" "hid0" 0,
    .host "HID" "mouse"]

theorem objects_mixedAdditions :
    (∀ addition ∈ mixedAdditions, IsName addition.scope ∧ IsName addition.tag) ∧
      (empty.after mixedAdditions).Describes ∧
      (empty.after mixedAdditions).definedObjects =
        [.object "CDC" "Device" "cdc0" 0 "cdc0", .object "CDC" "Device" "cdc1" 1 "cdc1",
          .address "CDC" "Device" "devices" "cdc0", .address "CDC" "Device" "devices" "cdc1",
          .object "HID" "Device" "hid0" 0 "hid0", .object "HID" "HostDevice" "hid" 0 "hid",
          .object "HID" "HostDevice" "mouse" 1 "mouse",
          .address "HID" "Device" "devices" "hid0",
          .address "HID" "HostDevice" "host_devices" "hid",
          .address "HID" "HostDevice" "host_devices" "mouse"] := by
  have names : ∀ addition ∈ mixedAdditions, IsName addition.scope ∧ IsName addition.tag := by
    decide
  exact ⟨names, (objects_after mixedAdditions).2.2.2 names, by decide +kernel⟩

end ClassRegistry

end UsbDescriptors
