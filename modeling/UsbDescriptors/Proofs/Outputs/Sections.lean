import UsbDescriptors.Proofs.Outputs.Symbols

/-!
# Parts of sections

A section of an output is put together from the lines of the blocks of a run. The lines of a block
stand in their section one behind the other, with nothing between them.
-/

namespace UsbDescriptors

namespace Generated

variable {generated : Generated}

/-- The descriptor of a device stands behind a comment with its tag. -/
theorem isInfix_descriptorLines {block : DeviceBlock} (mem : block ∈ generated.devices) :
    ∃ lines, generated.deviceDescriptors = unlines lines ∧
      ("// " ++ block.tag) :: block.descriptorLines <:+: lines := by
  unfold deviceDescriptors
  cases devices : generated.devices with
  | nil => simp [devices] at mem
  | cons first rest =>
      rw [devices] at mem
      refine ⟨_, rfl, ?_⟩
      apply List.IsInfix.trans _ (List.infix_append _ _ _)
      apply List.IsInfix.trans _ (isInfix_flatMap mem _)
      exact ⟨[], [""], rfl⟩

theorem isInfix_deviceLines {block : DeviceBlock} (mem : block ∈ generated.devices) :
    ∃ lines, generated.configurationDescriptors = unlines lines ∧
      (block.configurations.flatMap (fun configuration => configuration.sourceLines ++ [""])
        ++ block.configurationArrayLines ++ [""]) <:+: lines := by
  unfold configurationDescriptors
  cases devices : generated.devices with
  | nil => simp [devices] at mem
  | cons first rest =>
      rw [devices] at mem
      refine ⟨_, rfl, ?_⟩
      apply List.IsInfix.trans (isInfix_flatMap mem _)
      exact ⟨[], _, rfl⟩

/-- The array of the configurations of a device stands in the configuration descriptors. -/
theorem isInfix_configurationArrayLines {block : DeviceBlock} (mem : block ∈ generated.devices) :
    ∃ lines, generated.configurationDescriptors = unlines lines ∧
      block.configurationArrayLines <:+: lines := by
  rcases isInfix_deviceLines mem with ⟨lines, section_, inside⟩
  exact ⟨lines, section_, (List.infix_append _ _ _).trans inside⟩

/-- The source of a configuration stands in the configuration descriptors. -/
theorem isInfix_sourceLines {block : ConfigurationBlock} (mem : block ∈ generated.configurations) :
    ∃ lines, generated.configurationDescriptors = unlines lines ∧ block.sourceLines <:+: lines := by
  rcases List.mem_flatMap.mp mem with ⟨device, deviceMem, blockMem⟩
  rcases isInfix_deviceLines deviceMem with ⟨lines, section_, inside⟩
  refine ⟨lines, section_, List.IsInfix.trans ?_ inside⟩
  rw [List.append_assoc]
  apply List.IsInfix.trans _ (List.prefix_append _ _).isInfix
  apply List.IsInfix.trans (List.prefix_append _ [""]).isInfix
  exact isInfix_flatMap blockMem (fun configuration => configuration.sourceLines ++ [""])

/-- The lines of a configuration stand in the numbering of interfaces and endpoints. -/
theorem isInfix_headerLines {block : ConfigurationBlock} (mem : block ∈ generated.configurations) :
    ∃ lines, generated.configurationEnums = unlines lines ∧ block.headerLines <:+: lines := by
  have nonempty : generated.configurations.isEmpty = false :=
    List.isEmpty_eq_false_iff.mpr (List.ne_nil_of_mem mem)
  have texts : generated.configurations.map (fun block => unlines block.headerLines) =
      (generated.configurations.map ConfigurationBlock.headerLines).map unlines := by
    rw [List.map_map]
    rfl
  refine ⟨[""].intercalate (generated.configurations.map ConfigurationBlock.headerLines), ?_,
    isInfix_intercalate (List.mem_map_of_mem mem)⟩
  rw [configurationEnums, nonempty, texts, joined_unlines]
  rfl

end Generated

namespace Document

variable {catalog : Catalog} {document : Document} {generated : Generated}

/-- A successful run makes one block from every configuration of the document, in order. -/
theorem blocks_of_generate (run : document.generate catalog = .ok generated) :
    List.Forall₂ (fun entry block => ∃ device number,
      ConfigurationBlock.MadeFrom catalog device (entry, number) block)
        document.allConfigurations generated.configurations := by
  refine Related.flatMap ?_ (generate_ok run)
  intro entry device made
  conv => arg 2; rw [← List.zipIdx_map_fst 1 entry.2.configurations]
  rw [List.forall₂_map_left_iff]
  exact made.configurations.imp fun numbered block origin => ⟨entry.1, numbered.2, origin⟩

end Document

end UsbDescriptors
