import DesignCompiler.Tokens.Table

/-! The table that is used when a project brings none. -/

namespace DesignCompiler.Tokens

/-- The ten shades of a color, from light to dark. -/
def palette (values : List String) : List (String × String) :=
  ["50", "100", "200", "300", "400", "500", "600", "700", "800", "900"].zip values

/-- Steps of a text scale with their line heights. -/
def textScale (steps : List (String × Float × Float)) : List (String × Typography) :=
  steps.map fun (name, size, line) => (name, ⟨"Inter", size, 400, some line, none⟩)

/-- The standard table. -/
def TokenTable.standard : TokenTable where
  colors := [
    ("white", [("DEFAULT", "#ffffff")]),
    ("black", [("DEFAULT", "#000000")]),
    ("gray", palette ["#f9fafb", "#f3f4f6", "#e5e7eb", "#d1d5db", "#9ca3af",
      "#6b7280", "#4b5563", "#374151", "#1f2937", "#111827"]),
    ("red", palette ["#fef2f2", "#fee2e2", "#fecaca", "#fca5a5", "#f87171",
      "#ef4444", "#dc2626", "#b91c1c", "#991b1b", "#7f1d1d"]),
    ("green", palette ["#f0fdf4", "#dcfce7", "#bbf7d0", "#86efac", "#4ade80",
      "#22c55e", "#16a34a", "#15803d", "#166534", "#14532d"]),
    ("blue", palette ["#eff6ff", "#dbeafe", "#bfdbfe", "#93c5fd", "#60a5fa",
      "#3b82f6", "#2563eb", "#1d4ed8", "#1e40af", "#1e3a8a"])]
  spacing := [
    ("0", 0.0), ("px", 1.0), ("0.5", 2.0), ("1", 4.0), ("1.5", 6.0),
    ("2", 8.0), ("2.5", 10.0), ("3", 12.0), ("3.5", 14.0), ("4", 16.0),
    ("5", 20.0), ("6", 24.0), ("7", 28.0), ("8", 32.0), ("9", 36.0),
    ("10", 40.0), ("11", 44.0), ("12", 48.0), ("14", 56.0), ("16", 64.0),
    ("20", 80.0), ("24", 96.0), ("28", 112.0), ("32", 128.0), ("36", 144.0),
    ("40", 160.0), ("44", 176.0), ("48", 192.0), ("52", 208.0), ("56", 224.0),
    ("60", 240.0), ("64", 256.0), ("72", 288.0), ("80", 320.0), ("96", 384.0)]
  borderRadius := [
    ("none", 0.0), ("sm", 2.0), ("DEFAULT", 4.0), ("md", 6.0), ("lg", 8.0),
    ("xl", 12.0), ("2xl", 16.0), ("3xl", 24.0), ("full", 9999.0)]
  shadows := [
    ("sm", "0 1px 2px 0 rgba(0, 0, 0, 0.05)"),
    ("DEFAULT", "0 1px 3px 0 rgba(0, 0, 0, 0.1)"),
    ("md", "0 4px 6px -1px rgba(0, 0, 0, 0.1)"),
    ("lg", "0 10px 15px -3px rgba(0, 0, 0, 0.1)"),
    ("xl", "0 20px 25px -5px rgba(0, 0, 0, 0.1)"),
    ("2xl", "0 25px 50px -12px rgba(0, 0, 0, 0.25)")]
  breakpoints := [
    ("sm", 640.0), ("md", 768.0), ("lg", 1024.0), ("xl", 1280.0), ("2xl", 1536.0)]
  typography := textScale [
    ("xs", 12.0, 16.0),
    ("sm", 14.0, 20.0),
    ("base", 16.0, 24.0),
    ("lg", 18.0, 28.0),
    ("xl", 20.0, 28.0),
    ("2xl", 24.0, 32.0),
    ("3xl", 30.0, 36.0),
    ("4xl", 36.0, 40.0),
    ("5xl", 48.0, 48.0)]

end DesignCompiler.Tokens
