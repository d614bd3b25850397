import UsbDescriptors.Document.Types
import UsbDescriptors.Interface.Evaluated
import UsbDescriptors.Text.Writing

/-!
# Configuration blocks

The generated text of one configuration: its descriptor in the source, and the numbering of its
interfaces and endpoints in the header.
-/

namespace UsbDescriptors

/-- The three lines that head a part of a source. -/
def bannerLines (title : String) : List String :=
  ["//--------------------------------------------------------------------+",
    "// " ++ title,
    "//--------------------------------------------------------------------+",
    ""]

/-- A configuration as it is generated. -/
structure ConfigurationBlock where
  tag : String
  /-- The number by which the host selects the configuration, from one. -/
  number : Nat
  /-- The symbol of the description. -/
  description : String
  attributes : List Attribute
  /-- The most power that is drawn from the bus, in milliamperes. -/
  power : Nat
  interfaces : List EvaluatedInterface
deriving DecidableEq, Repr

namespace ConfigurationBlock

def symbol (block : ConfigurationBlock) : String :=
  "desc_config_" ++ identifier block.tag

/-- The define of the total length of the descriptor. -/
def totalLengthSymbol (block : ConfigurationBlock) : String :=
  identifier block.tag ++ "_TOTAL_LEN"

/-- The enumerator of the number of interfaces. -/
def interfaceTotalSymbol (block : ConfigurationBlock) : String :=
  "ITF_NUM_TOTAL_" ++ identifier block.tag

def attributeFlags (block : ConfigurationBlock) : String :=
  if block.attributes.isEmpty then "0"
  else joined " | " (block.attributes.map Attribute.symbol)

def interfaceNumbers (block : ConfigurationBlock) : List String :=
  block.interfaces.flatMap EvaluatedInterface.interfaceNumbers

def endpoints (block : ConfigurationBlock) : List Endpoint :=
  block.interfaces.flatMap EvaluatedInterface.endpoints

/-- The number of interface numbers in use. -/
def interfaceCount (block : ConfigurationBlock) : Nat :=
  block.interfaceNumbers.length

def endpointCount (block : ConfigurationBlock) : Nat :=
  block.endpoints.length

/-- The arguments of the macro that describes the configuration itself. -/
def descriptorArguments (block : ConfigurationBlock) : List String :=
  [toString block.number, block.interfaceTotalSymbol, block.description,
    block.totalLengthSymbol, block.attributeFlags, toString block.power]

def sourceLines (block : ConfigurationBlock) : List String :=
  bannerLines ("Configuration Descriptor: " ++ block.tag)
    ++ ["static const uint8_t " ++ block.symbol ++ "[] = \x7b",
      "\t// Config number, interface count, string index, total length, attribute, power in mA",
      "\tTUD_CONFIG_DESCRIPTOR(" ++ joined ", " block.descriptorArguments ++ "),"]
    ++ block.interfaces.flatMap (fun interface =>
      ["", "\t// " ++ interface.tag, "\t" ++ interface.statement ++ ","])
    ++ ["\x7d;"]

def interfaceEnumLines (block : ConfigurationBlock) : List String :=
  ["enum \x7b"] ++ block.interfaceNumbers.map (fun number => "\t" ++ number ++ ",")
    ++ ["\t" ++ block.interfaceTotalSymbol ++ ",", "\x7d;"]

/-- The line that defines the total length: that of the configuration itself and those of its
interfaces. -/
def totalLengthLine (block : ConfigurationBlock) : String :=
  let lengths := "TUD_CONFIG_DESC_LEN" :: block.interfaces.map EvaluatedInterface.length
  "#define " ++ block.totalLengthSymbol ++ " (" ++ joined " + " lengths ++ ")"

/-- The lines of the enumeration of the endpoint addresses, none without endpoints. -/
def endpointEnumLines (block : ConfigurationBlock) : List String :=
  if block.endpoints.isEmpty then []
  else
    ["", "enum \x7b"]
      ++ block.endpoints.map
        (fun endpoint => "\t" ++ endpoint.symbol ++ " = " ++ endpoint.address.text ++ ",")
      ++ ["\x7d;"]

def headerLines (block : ConfigurationBlock) : List String :=
  ["// " ++ block.tag] ++ block.interfaceEnumLines ++ ["", block.totalLengthLine]
    ++ block.endpointEnumLines

end ConfigurationBlock

end UsbDescriptors
