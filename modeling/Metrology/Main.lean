import Metrology.Report

def main : IO Unit := do
  for line in Metrology.Report.lines do
    IO.println line
