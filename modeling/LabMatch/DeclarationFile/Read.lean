import LabMatch.DeclarationFile.Basic
import LabMatch.Toml.Document
import LabMatch.Toml.Record

/-!
# Reading declaration files

Declaration files are TOML documents.  Every record is closed, so a misspelt key
is noticed.
-/

namespace LabMatch

namespace DeclarationFile

open Toml (Value Record)

def BindEntry.ofToml? (value : Value) : Option BindEntry := do
  let record ← Record.ofValue? ["logical_device", "device"] true value
  return {
    logicalDevice := ← record.required Value.string? "logical_device"
    device := ← record.required Value.string? "device" }

def AttachEntry.ofToml? (value : Value) : Option AttachEntry := do
  let record ← Record.ofValue? ["attr", "capability", "bind"] true value
  return {
    attr := ← record.required Value.string? "attr"
    capability := ← record.required Value.string? "capability"
    bind := ← record.optional BindEntry.ofToml? "bind" }

def ConditionEntry.ofToml? (value : Value) : Option ConditionEntry := do
  let record ← Record.ofValue? ["logical_device", "connection"] true value
  return {
    logicalDevice := ← record.required Value.string? "logical_device"
    connection := ← record.required Value.string? "connection" }

def VariantEntry.ofToml? (value : Value) : Option VariantEntry := do
  let record ← Record.ofValue? ["method", "name", "when"] true value
  return {
    method := ← record.required Value.string? "method"
    name := ← record.required Value.string? "name"
    conditions := ← record.required (Value.list? ConditionEntry.ofToml?) "when" }

def LogicalDeviceEntry.ofToml? (value : Value) : Option LogicalDeviceEntry := do
  let record ← Record.ofValue? ["name", "extends", "requires", "capabilities"] true value
  return {
    name := ← record.required Value.string? "name"
    parent := ← record.optional Value.string? "extends"
    requirement := ← record.optional Value.string? "requires"
    attachments := ← record.orElse (Value.list? AttachEntry.ofToml?) "capabilities" [] }

def CapabilityEntry.ofToml? (value : Value) : Option CapabilityEntry := do
  let record ← Record.ofValue? ["name", "extends", "logical_device", "variant"] true value
  return {
    name := ← record.required Value.string? "name"
    parent := ← record.optional Value.string? "extends"
    logicalDevices := ← record.orElse (Value.list? LogicalDeviceEntry.ofToml?) "logical_device" []
    variants := ← record.orElse (Value.list? VariantEntry.ofToml?) "variant" [] }

def LinkEntry.ofToml? (value : Value) : Option LinkEntry := do
  let record ←
    Record.ofValue? ["to", "over", "from_node", "to_node", "bidirectional"] true value
  return {
    peer := ← record.required Value.string? "to"
    connection := ← record.required Value.string? "over"
    node := ← record.optional Value.string? "from_node"
    peerNode := ← record.optional Value.string? "to_node"
    bidirectional := ← record.orElse Value.boolean? "bidirectional" true }

def DeviceEntry.ofToml? (value : Value) : Option DeviceEntry := do
  let record ← Record.ofValue? ["name", "extends", "capabilities", "connections"] true value
  return {
    name := ← record.required Value.string? "name"
    parent := ← record.optional Value.string? "extends"
    attachments := ← record.orElse (Value.list? AttachEntry.ofToml?) "capabilities" []
    links := ← record.orElse (Value.list? LinkEntry.ofToml?) "connections" [] }

def ContainerEntry.ofToml? (value : Value) : Option ContainerEntry := do
  let record ← Record.ofValue? ["name", "extends", "device"] true value
  return {
    name := ← record.required Value.string? "name"
    parent := ← record.optional Value.string? "extends"
    devices := ← record.orElse (Value.list? DeviceEntry.ofToml?) "device" [] }

def ofToml? (value : Value) : Option DeclarationFile := do
  let record ← Record.ofValue? ["capability", "scenario", "setup"] true value
  return {
    capabilities := ← record.orElse (Value.list? CapabilityEntry.ofToml?) "capability" []
    scenarios := ← record.orElse (Value.list? ContainerEntry.ofToml?) "scenario" []
    setups := ← record.orElse (Value.list? ContainerEntry.ofToml?) "setup" [] }

/-- The declaration file written in `text`, unless it is malformed. -/
def read? (text : String) : Option DeclarationFile := do ofToml? (← Toml.parse text)

end DeclarationFile

end LabMatch
