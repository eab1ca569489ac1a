import InteropGen.Run

/-!
# Dear ImGui

The settings for the C interface of Dear ImGui: its vectors are those of `System.Numerics`, the C
spellings of its default arguments become C# values, and the public and the internal interface
are two configurations over one set of symbols.
-/

namespace InteropGen.ImGui

/-- C# types for native names. -/
def conversions : List (String × String) :=
  [("ImVec2", "Vector2"), ("ImVec4", "Vector4"), ("size_t", "ulong"), ("va_list", "IntPtr")]

/-- C# values for the C spellings of default arguments. -/
def defaultValues : List (String × String) :=
  [("NULL", "null"), ("nullptr", "null"), ("FLT_MAX", "float.MaxValue"),
    ("-FLT_MIN", "-float.Epsilon"), ("FLT_MIN", "float.Epsilon"),
    ("ImVec2(0.0f, 0.0f)", "new Vector2()"), ("ImVec2(0, 0)", "new Vector2()"),
    ("ImVec2(-FLT_MIN, 0)", "new Vector2(-float.Epsilon, 0.0f)"),
    ("ImVec2(1, 1)", "new Vector2(1, 1)"), ("ImVec2(0, 1)", "new Vector2(0, 1)"),
    ("ImVec2(1, 0)", "new Vector2(1, 0)"), ("ImVec4(0, 0, 0, 0)", "new Vector4()"),
    ("ImVec4(1, 1, 1, 1)", "new Vector4(1, 1, 1, 1)"), ("ImDrawFlags_None", "0"),
    ("ImDrawCornerFlags_All", "0"), ("sizeof(float)", "sizeof(float)"),
    ("(((ImU32)(255)<<24)|((ImU32)(255)<<16)|((ImU32)(255)<<8)|((ImU32)(255)<<0))",
      "0xFFFFFFFF")]

/-- The settings of the library. -/
def settings : Settings where
  library := "dcimgui"
  conversions := .ofList conversions
  customTypes := ["ImVec2", "ImVec4"]
  defaultValues := .ofList defaultValues
  skippedParts := ["ImVector_", "ImChunkStream_"]
  knownDefines := ["IMGUI_DISABLE_OBSOLETE_FUNCTIONS", "IMGUI_DISABLE_OBSOLETE_KEYIO"]

/-- The public and the internal interface. -/
def configurations : List Configuration :=
  [{ metadataFile := "dcimgui.json"
     namespaceName := "SharpImGui"
     mainClass := "ImGui"
     nativeClass := "ImGuiNative" },
    { metadataFile := "dcimgui_internal.json"
      namespaceName := "SharpImGui.Internal"
      mainClass := "ImGuiInternal"
      nativeClass := "ImGuiInternalNative"
      outputSubdirectory := "Internal"
      usings := ["SharpImGui"] }]

/-- The library with its metadata in one directory and its bindings in another. -/
def project (metadata output : String) : Project where
  settings := settings
  metadataRoot := metadata
  outputRoot := output
  configurations := configurations

end InteropGen.ImGui
