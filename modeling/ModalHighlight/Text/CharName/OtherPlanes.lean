import ModalHighlight.Text.CharName

/-!
The names of the characters from U+10000 on in Unicode 14, run by run.
-/

namespace ModalHighlight.Text

/-- The listed names of the characters from U+10000 on. -/
def NameRun.otherPlanes : List NameRun := [
  ⟨0x10000, ["LINEAR B SYLLABLE B008 Ae38 Ee28 Ie61 Oe10 Ue01 DAf45 DEf07 DIf14 DOf51 DUe7 JAf46 J",
     "E"]⟩,
  ⟨0x1000D, ["LINEAR B SYLLABLE B036 JOf65 JUf77 KAf44 KEf67 KIf70 KOf81 KUe0 MAf13 MEf73 MIf15 MO",
     "f23 MUf06 NAf24 NEf30 NIf52 NOe5 NUf03 PAf72 PEf39 PIf11 POf50 PUf16 QAf78 QEf21 QIf32 QO"]⟩,
  ⟨0x10028, ["LINEAR B SYLLABLE B060 RAf27 REf53 RIf02 ROf26 RUf31 SAf09 SEf41 SIf12 SOf58 SUe9 TA",
     "f04 TEf37 TIf05 TOf69 TUf54 WAf75 WEf40 WIe2 WO"]⟩,
  ⟨0x1003C, ["LINEAR B SYLLABLE B017 ZAf74 ZE"]⟩,
  ⟨0x1003F, ["LINEAR B SYLLABLE B020 ZOe5 A2f43 A3f85 AUf71 DWEg90 DWOg48 NWAg29 PU2g62 PTEg76 RA2",
     "g33 RA3g68 RO2f6 TA2g87 TWEg91 TWO"]⟩,
  ⟨0x10050, ["LINEAR B SYMBOL B018b9c22c34c47b9c56c63b4c79c82b3b6b9"]⟩,
  ⟨0x10080, ["LINEAR B IDEOGRAM B100 MANf2 WOMANh4 DEERg5 EQUIDgF MAREgM STALLIONl6F EWEfM RAMg7F ",
     "SHE-GOATkM HE-GOATk8F SOWfM BOARh9F COWfM BULLi20 WHEATh1 BARLEYi2 OLIVEh3 SPICEh5 CYPERUSvM",
     "ONOGRAM B127 KAPOg8 KANAKOuIDEOGRAM B130 OILf1 WINEg2nMONOGRAM B133 AREPAh5 MERIsIDEOGRAM B1",
     "40 BRONZEi1 GOLDg2b5 WOOLg6c50b1 HORNg2b3b4nMONOGRAM B156 TURO2tIDEOGRAM B157b8b9 CLOTHi60b1",
     "b2 GARMENTj3 ARMOURi4b5b6b7b8b9c70b1b2b3 MONTHh4b6 TREEg7b8b9c80b1b2b3b4b5b9c90b1 HELMETk220",
     " FOOTSTOOLl5 BATHTUBk30 SPEARh1 ARROWh2b3 SWORDh4b6c40 WHEELED CHARIOTr1 CHARIOTj2 CHARIOT F",
     "RAMEp3 WHEELh5b6nMONOGRAM B247 DIPTEtIDEOGRAM B248b9c51b2b3b4 DARTg5b6b7b8b9eVESSEL B155d200",
     "b1b2b3b4b5b6b7b8b9c10b1b2b3b4b5b6b7b8b9c21b2b6b7b8b9c50d305"]⟩,
  ⟨0x10100, ["AEGEAN WORD SEPARATOR LINEeDOTsCHECK MARK"]⟩,
  ⟨0x10107, ["AEGEAN NUMBER ONEdTWOcHREEfFOURdIVEeSIXcEVENfEIGHTfNINEeTENcWENTYfHIRTYgFORTYeIFTYfS",
     "IXTYeEVENTYhEIGHTYgNINETYgONE HUNDREDlTWO HUNDREDkHREE HUNDREDnFOUR HUNDREDlIVE HUNDREDmSIX ",
     "HUNDREDkEVEN HUNDREDnEIGHT HUNDREDnNINE HUNDREDmONE THOUSANDmTWO THOUSANDlHREE THOUSANDoFOUR",
     " THOUSANDmIVE THOUSANDnSIX THOUSANDlEVEN THOUSANDoEIGHT THOUSANDoNINE THOUSANDnTEN THOUSANDl",
     "WENTY THOUSANDoHIRTY THOUSANDpFORTY THOUSANDnIFTY THOUSANDoSIXTY THOUSANDnEVENTY THOUSANDqEI",
     "GHTY THOUSANDpNINETY THOUSAND"]⟩,
  ⟨0x10137, ["AEGEAN WEIGHT BASE UNITjFIRST SUBUNITnSECOND SUBUNIToTHIRD SUBUNITnFOURTH SUBUNITvDR",
     "Y MEASURE FIRST SUBUNITzLIQUID MEASURE FIRST SUBUNITzdMEASURE SECOND SUBUNIToTHIRD SUBUNITzd",
     "GREEK ACROPHONIC ATTIC ONE QUARTERhHALFeDRACHMAlFIVEcFTYdVE HUNDREDhTHOUSANDlFTY THOUSANDmVE",
     " TALENTSmTEN TALENTSlFIFTY TALENTSnONE HUNDRED TALENTStFIVE HUNDRED TALENTSuONE THOUSAND TAL",
     "ENTSuFIVE THOUSAND TALENTSqSTATERSmTEN STATERSlFIFTY STATERSnONE HUNDRED STATERStFIVE HUNDRE",
     "D STATERSuONE THOUSAND STATERSuTEN THOUSAND STATERSuFIFTY THOUSAND STATERSwTEN MNASoHERAEUM ",
     "ONE PLETHRONuTHESPIAN ONEmHERMIONIAN ONEoEPIDAUREAN TWOoTHESPIAN TWOmCYRENAIC TWO DRACHMASvE",
     "PIDAUREAN TWO DRACHMASxTROEZENIAN FIVEeTENa ALTERNATE FORMzeHERMIONIAN TENoMESSENIAN TENnTHE",
     "SPIAN TENcHIRTYoROEZENIAN FIFTYa ALTERNATE FORMzgHERMIONIAN FIFTYqTHESPIAN FIFTYfONE HUNDRED",
     "lTHREE HUNDREDwEPIDAUREAN FIVE HUNDREDxTROEZENIAN FIVE HUNDREDwHESPIAN FIVE HUNDREDvCARYSTIA",
     "N FIVE HUNDREDwNAXIAN FIVE HUNDREDtTHESPIAN ONE THOUSANDmFIVE THOUSANDwDELPHIC FIVE MNASrSTR",
     "ATIAN FIFTY MNASzfONE HALF SIGNa ALTERNATE FORMzdTWO THIRDS SIGNoHREE QUARTERS SIGNtYEAR SIG",
     "NjTALENT SIGNlDRACHMA SIGNmOBOL SIGNjTWO OBOLS SIGNnHREE OBOLS SIGNqFOUR OBOLS SIGNoIVE OBOL",
     "S SIGNpMETRETES SIGNnKYATHOS BASE SIGNrLITRA SIGNkOUNKIA SIGNlXESTES SIGNlARTABE SIGNjOURA S",
     "IGNlGRAMMA SIGNlTRYBLION BASE SIGNsZERO SIGNjONE QUARTER SIGNqSINUSOID SIGNnINDICTION SIGNuN",
     "OMISMA SIGN"]⟩,
  ⟨0x10190, ["ROMAN SEXTANS SIGNmUNCIA SIGNkSEMUNCIA SIGNlXTULA SIGNmDIMIDIA SEXTULA SIGNuSILIQUA ",
     "SIGNmDENARIUS SIGNnQUINARIUS SIGNoSESTERTIUS SIGNpDUPONDIUS SIGNoAS SIGNhCENTURIAL SIGNuASCI",
     "A SYMBOL"]⟩,
  ⟨0x101A0, ["GREEK SYMBOL TAU RHO"]⟩,
  ⟨0x101D0, ["PHAISTOS DISC SIGN PEDESTRIANjLUMED HEADlTATTOOED HEADnCAPTIVEgHILDfWOMANfHELMETgGAU",
     "NTLETiTIARAfARROWfBOWdSHIELDgCLUBeMANACLESgTTOCKhSAWdLIDdBOOMERANGjCARPENTRY PLANEpDOLIUMgCO",
     "MBeSLINGfCOLUMNgBEEHIVEhSHIPeHORNdIDEeBULLS LEGjCATdRAMdEAGLEfDOVEeTUNNYfBEEdPLANE TREEkVINE",
     "ePAPYRUShROSETTEhLILYeOX BACKhFLUTEfGRATERgSTRAINERhMALL AXEjWAVY BANDjCOMBINING OBLIQUE STR",
     "OKE"]⟩,
  ⟨0x10280, ["LYCIAN LETTER AbEbBaHcGbDbIbWbZbTHcJbKbQbLbMbNbMMcNNcUbPbKKcRbSbTaTcANcENcHbX"]⟩,
  ⟨0x102A0, ["CARIAN LETTER AbP2cDbLbUUUdRbLDcA2cQbBbMbObD2cTbSHa2dSbC-18eUbNNcXbNbTT2dPbSScIbEbUU",
     "UUeKa2cNDcUUcGa2cSTa2dNGcIIcC-39eTTcUUU2eRRcMBa2b3b4dLD2dE2cUUU3"]⟩,
  ⟨0x102E0, ["COPTIC EPACT THOUSANDS MARKoDIGIT ONEdTWOcHREEfFOURdIVEeSIXcEVENfEIGHTfNINEkNUMBER T",
     "ENcWENTYfHIRTYgFORTYeIFTYfSIXTYeEVENTYhEIGHTYgNINETYgONE HUNDREDlTWO HUNDREDkHREE HUNDREDnFO",
     "UR HUNDREDlIVE HUNDREDmSIX HUNDREDkEVEN HUNDREDnEIGHT HUNDREDnNINE HUNDRED"]⟩,
  ⟨0x10300, ["OLD ITALIC LETTER AbBEcKEcDEcEbVEcZEcHEcTHEdIbKAcELbMbNbSHdObPEcSHEdKUcERbScTEcUbEKS",
     "dPHEdKHEdEFbRSdCHEdIIcUUcESSkNUMERAL ONEdFIVEeTENdFIFTY"]⟩,
  ⟨0x1032D, ["OLD ITALIC LETTER YEcNORTHERN TSEmSOUTHERN TSEzfGOTHIC LETTER AHSAeBAIRKANhGIBAeDAGS",
     "eAIHVUSgQAIRTHRAiIUJAeHAGLeTHIUTHgEISdKUSMAfLAGUSfMANNAfNAUTHSgJERdURUSePAIRTHRAiNINETYgRAID",
     "AfSAUILfTEIWSfWINJAfFAIHUfIGGWSfHWAIRfOTHALfNINE HUNDRED"]⟩,
  ⟨0x10350, ["OLD PERMIC LETTER ANcBURdGAIdDOIdEbZHOIeDZHOIfZATAeDZITAfIbKOKEeLEIdMENOEfNENOEfVOOI",
     "ePEEIeREIdSIIdTAIdUbCHERYfSHOOIdCHOOIhYRYcERUeOaOcEFcHAcTSIUeVERdYERaIdATdIEcYUbAcIAuCOMBINI",
     "NG OLD PERMIC LETTER ANcDOIdZATAeNENOEfSII"]⟩,
  ⟨0x10380, ["UGARITIC LETTER ALPAeBETAeGAMLAfKHAdDELTAfHOcWOcZETAeHOTAeTETdYODdKAFdSHINeLAMDAfMEM",
     "dDHALeNUNdZUcSAMKAfAINdPUcSADEeQOPAeRASHAfTHANNAgGHAINfTOcIbUbSSU"]⟩,
  ⟨0x1039F, ["UGARITIC WORD DIVIDERvOLD PERSIAN SIGN AbIbUbKAbUcGAbUcXAcCAcJAbIcTAbUcDAbIbUcTHAdPA",
     "cBAcFAcNAbUcMAbIbUcYAcVAbIcRAbUcLAcSAcZAcSHAcSAdHA"]⟩,
  ⟨0x103C8, ["OLD PERSIAN SIGN AURAMAZDAAa-2cHAmXSHAAYATHIYAmDAHYAAUSHa-2lBAGAdUUMISHmWORD DIVIDER",
     "mNUMBER ONEdTWOcENcWENTYgHUNDRED"]⟩,
  ⟨0x10400, ["DESERET CAPITAL LETTER LONG IbEbAaHcOaOhSHORT IbEbAaHcOaOiAYcOWcWUcYEEdHbPEEdBEEdTEE",
     "dDEEdCHEEeJEEdKAYdGAYdEFcVEEdETHdTHEEeEScZEEdESHdZHEEeERbLbMbNaGdOIcEWrSMALL LETTER LONG IbE",
     "bAaHcOaOhSHORT IbEbAaHcOaOiAYcOWcWUcYEEdHbPEEdBEEdTEEdDEEdCHEEeJEEdKAYdGAYdEFcVEEdETHdTHEEeE",
     "ScZEEdESHdZHEEeERbLbMbNaGdOIcEWxSHAVIAN LETTER PEEPeTOTdKICKeFEEdTHIGHfSObUREeCHURCHgYEAdHUN",
     "GeBIBdDEADeGAGdVOWdTHEYeZOOdMEASUREhJUDGEfWOEdHA-HAfLOLLeMIMEeIFcEGGdASHcDOdONcWOOLeOUTdAHcR",
     "OAReNUNdEATdAGEdICEdUPcOAKcOZEdILdAWEcREdORcAIRdERRdARRAYfEARdIANdYEWsOSMANYA LETTER ALEFeBA",
     "cTAcJAcXAcKHAdDEELeRAcSAbHIINfDHAdCAYNeGAcFAcQAAFeKAAFeLAANeMIINeNUUNeWAWdHAcYAcAbEbIbObUbAA",
     "cEEcOO"]⟩,
  ⟨0x104A0, ["OSMANYA DIGIT ZEROeONEdTWOcHREEfFOURdIVEeSIXcEVENfEIGHTfNINE"]⟩,
  ⟨0x104B0, ["OSAGE CAPITAL LETTER AaIaNcHcBRAdCHAdEHCHAfEaINdHAbYAdIbKAcEHKAeKYAdLAcMAcNAcOaINdPA",
     "cEHPAeSAbHAdTAcEHTAeTSAdEHTSAfTSHAeDHAdUbWAcKHAdGHAdZAbHA"]⟩,
  ⟨0x104D8, ["OSAGE SMALL LETTER AaIaNcHcBRAdCHAdEHCHAfEaINdHAbYAdIbKAcEHKAeKYAdLAcMAcNAcOaINdPAcE",
     "HPAeSAbHAdTAcEHTAeTSAdEHTSAfTSHAeDHAdUbWAcKHAdGHAdZAbHA"]⟩,
  ⟨0x10500, ["ELBASAN LETTER AbBEcCEbHEdDEcNDEdDHEdEIcEbFEcGEbJEdHEcIbJEcKEcLEbLEdMEcNEbAbJEdObPEc",
     "QEcREbREdSEbHEdTEbHEdUbVEcXEcYbZEbHEdGHEbAMMAgKHE"]⟩,
  ⟨0x10530, ["CAUCASIAN ALBANIAN LETTER ALTdBETdGIMdDATdEBcZARLeEYNdZHILeTASdCHAdYOWDeZHAdIRBdSHAd",
     "LANdINYAeXEYNeDYANeCARdJHOXeKARdLYITeHEYTeQAYdAORdCHOYcIcYAYeMAQdQARdNOWCeDZYAYfSHAKeJAYNeON",
     "cTYAYeFAMdDZAYeCHATePENdGHEYSfRATdSEYKeVEYZeTIWReSHOYeIWNdCYAWdAYNeYAYDePIWReKIW"]⟩,
  ⟨0x1056F, ["CAUCASIAN ALBANIAN CITATION MARKzhVITHKUQI CAPITAL LETTER AbBBEcEcCEbHEdDEbHEdEIcEbF",
     "EcGA"]⟩,
  ⟨0x1057C, ["VITHKUQI CAPITAL LETTER HAbHAdIaJEdJEcKAcLAbLAdMEcNEbJEdObPEcQAcRE"]⟩,
  ⟨0x1058C, ["VITHKUQI CAPITAL LETTER SEbHEdTEbHEdUbVEcXE"]⟩,
  ⟨0x10594, ["VITHKUQI CAPITAL LETTER YbZE"]⟩,
  ⟨0x10597, ["VITHKUQI SMALL LETTER AbBBEcEcCEbHEdDEbHEdEIcEbFEcGA"]⟩,
  ⟨0x105A3, ["VITHKUQI SMALL LETTER HAbHAdIaJEdJEcKAcLAbLAdMEcNEbJEdObPEcQAcRE"]⟩,
  ⟨0x105B3, ["VITHKUQI SMALL LETTER SEbHEdTEbHEdUbVEcXE"]⟩,
  ⟨0x105BB, ["VITHKUQI SMALL LETTER YbZE"]⟩,
  ⟨0x10600, ["LINEAR A SIGN AB001b2b3b4b5b6b7b8b9c10b1b3b6b7c20b1aFbMc2aFbMc3aMc4b6b7b8e028BeB029c",
     "30b1b4b7b8b9c40b1b4b5b6b7b8b9c50b1b3b4b5b6b7b8b9c60b1b5b6b7b9c70b3b4b6b7b8b9c80b1b2b5b6b7e10",
     "0-102hB118c20e120BeB122b3c31AbBf131CeB164c71c80b8c91e301b2b3b4b5b6b7b8b9AbBbCd10b1b2b3AbBbCc",
     "4b5b6b7b8b9c20b1b2b3b4b5b6b7b8b9c30b1b2b3b4b5b6b7b8b9c40b1b2b3b4b5b6b7b8b9c50b1b2b3b4b5b6b7b",
     "8b9c60b1b2b3b4b5b6b7b8b9c70b1d400-VASf1-VASf2-VASf3-VASf4-VASf5-VASf6-VASf7-VASf8-VASf9-VASg",
     "10-VASf1-VASf2-VASf3-VASf4-VASf5-VASf6-VASf7-VASf8-VASh501b2b3b4b5b6b8b9c10b1b2b3b5b6c20b1b3",
     "b4b5b6b7b8b9c30b1b2b4b5b6b7b8b9c40b1b2b5b7b8b9c50b1b2b3b4b5b6b7b9c63b4b5b6b8b9c70b1b2b3b4b5b",
     "6b7b8b9c80b1b2b3b4b5b6b7b8b9c91b2b4b5b6b8d600b1b2b3b4b6b8b9c10b1b2b3b4b5b6b7b8b9c20b1b2b3b4b",
     "6b7b8b9c34b7b8c40b2b3b4b5b6b8b9c51b2b3b4b5b6b7b8b9c60b1b2b3b4"]⟩,
  ⟨0x10740, ["LINEAR A SIGN A701 Ad2 Bd3 Dd4 Ed5 Fd6 Hd7 Jd8 Kd9 Lc-2 L2e3 L3e4 L4e6 L6h10 Wd1 Xd2",
     " Yd3 OMEGAh4 ABBf5 BBe7 DDf26 EYYYh32 JE"]⟩,
  ⟨0x10760, ["LINEAR A SIGN A800b1b2b3b4b5b6b7"]⟩,
  ⟨0x10780, ["MODIFIER LETTER SMALL CAPITAL AApUPERSCRIPT TRIANGULAR COLONqHALF TRIANGULAR COLONzh",
     "MALL AEcCAPITAL BjB WITH HOOK"]⟩,
  ⟨0x10787, ["MODIFIER LETTER SMALL DZ DIGRAPHa WITH RETROFLEX HOOKoCURLtEZH DIGRAPHl WITH TAILeHO",
     "OKa AND TAILuREVERSED EkCLOSED REVERSED OPEN EwFENG DIGRAPHmRAMS HORNjCAPITAL GjG WITH HOOKl",
     "CAPITAL G WITH HOOKtH WITH STROKEnCAPITAL HjHENG WITH HOOKoDOTLESS J WITH STROKE AND HOOKzfL",
     "S DIGRAPHjZ DIGRAPHj WITH BELTlCAPITAL L WITH BELTtL WITH RETROFLEX HOOK AND BELTzeEZHa WITH",
     " RETROFLEX HOOKyTURNED Ya WITH BELTsO WITH STROKEnCAPITAL OEjLOSED OMEGAmQbTURNED R WITH LON",
     "G LEGa AND RETROFLEX HOOKzqR WITH TAILeFISHHOOKpCAPITAL RjTC DIGRAPH WITH CURLtS DIGRAPHa WI",
     "TH RETROFLEX HOOKzeESH DIGRAPHl WITH RETROFLEX HOOKvV WITH RIGHT HOOK"]⟩,
  ⟨0x107B2, ["MODIFIER LETTER SMALL CAPITAL YpGLOTTAL STOP WITH STROKEyREVERSED GLOTTAL STOP WITH ",
     "STROKEziBILABIAL CLICKoDENTAL CLICKmLATERAL CLICKnALVEOLAR CLICKoRETROFLEX CLICK WITH RETROF",
     "LEX HOOKzkSMALL S WITH CURL"]⟩,
  ⟨0x10800, ["CYPRIOT SYLLABLE AbEbIbObUbJA"]⟩,
  ⟨0x10808, ["CYPRIOT SYLLABLE JO"]⟩,
  ⟨0x1080A, ["CYPRIOT SYLLABLE KAbEbIbObUcLAbEbIbObUcMAbEbIbObUcNAbEbIbObUcPAbEbIbObUcRAbEbIbObUcS",
     "AbEbIbObUcTAbEbIbObUcWAbEbIbO"]⟩,
  ⟨0x10837, ["CYPRIOT SYLLABLE XAbE"]⟩,
  ⟨0x1083C, ["CYPRIOT SYLLABLE ZA"]⟩,
  ⟨0x1083F, ["CYPRIOT SYLLABLE ZOtIMPERIAL ARAMAIC LETTER ALEPHfBETHeGIMELfDALETHgHEcWAWdZAYINfHET",
     "HeTETHeYODHeKAPHeLAMEDHgMEMdNUNdSAMEKHgAYINePEcSADHEfQOPHeRESHeSHINeTAW"]⟩,
  ⟨0x10857, ["IMPERIAL ARAMAIC SECTION SIGNmNUMBER ONEdTWOcHREEeENcWENTYgONE HUNDREDhTHOUSANDmTEN ",
     "THOUSANDzlPALMYRENE LETTER ALEPHfBETHeGIMELfDALETHgHEcWAWdZAYINfHETHeTETHeYODHeKAPHeLAMEDHgM",
     "EMdFINAL NUNjNUNdSAMEKHgAYINePEcSADHEfQOPHeRESHeSHINeTAWiFT-POINTING FLEURONvRIGHT-POINTING ",
     "FLEURONwNUMBER ONEdTWOcHREEfFOURdIVEeTENcWENTYxNABATAEAN LETTER FINAL ALEPHlALEPHfFINAL BETH",
     "kBETHeGIMELfDALETHgFINAL HEiHEcWAWdZAYINfHETHeTETHeFINAL YODHkYODHeFINAL KAPHkKAPHeFINAL LAM",
     "EDHmLAMEDHgFINAL MEMjMEMdFINAL NUNjNUNdSAMEKHgAYINePEcSADHEfQOPHeRESHeFINAL SHINkSHINeTAW"]⟩,
  ⟨0x108A7, ["NABATAEAN NUMBER ONEdTWOcHREEfFOURlCRUCIFORM NUMBER FOURvNUMBER FIVEeTENcWENTYgONE H",
     "UNDRED"]⟩,
  ⟨0x108E0, ["HATRAN LETTER ALEPHfBETHeGIMELfDALETH-RESHlHEcWAWdZAYNeHETHeTETHeYODHeKAPHeLAMEDHgME",
     "MdNUNdSAMEKHgAYNdPEcSADHEfQOPH"]⟩,
  ⟨0x108F4, ["HATRAN LETTER SHINeTAW"]⟩,
  ⟨0x108FB, ["HATRAN NUMBER ONEdFIVEeTENcWENTYgONE HUNDREDzPHOENICIAN LETTER ALFdBETdGAMLeDELTeHEc",
     "WAUdZAIdHETdTETdYODdKAFdLAMDeMEMdNUNdSEMKeAINdPEcSADEeQOFdROSHeSHINeTAUkNUMBER ONEdTENcWENTY",
     "gONE HUNDREDlTWOcHREE"]⟩,
  ⟨0x1091F, ["PHOENICIAN WORD SEPARATORzLYDIAN LETTER AbBbGbDbEbVbIbYbKbLbMbNbObRbSScTbUbFbQbSbTTc",
     "ANcENcLYcNNcC"]⟩,
  ⟨0x1093F, ["LYDIAN TRIANGULAR MARK"]⟩,
  ⟨0x10980, ["MEROITIC HIEROGLYPHIC LETTER AbEbIbObYAcWAcBAa-2ePAcMAcNAa-2dEa-2eRAa-2eLAcKHAdHHAdS",
     "Aa-2dEcKAcQAcTAa-2dEa-2dOcDAjSYMBOL VIDJa-2zbCURSIVE LETTER AbEbIbObYAcWAcBAcPAcMAcNAbEcRAcL",
     "AcKHAdHHAdSAcARCHAIC SAkSEcKAcQAcTAbEbOcDA"]⟩,
  ⟨0x109BC, ["MEROITIC CURSIVE FRACTION ELEVEN TWELFTHSpONE HALFrLOGOGRAM RMTdIMNmNUMBER ONEdTWOcH",
     "REEfFOURdIVEeSIXcEVENfEIGHTfNINEeTENcWENTYfHIRTYgFORTYeIFTYfSIXTYeEVENTY"]⟩,
  ⟨0x109D2, ["MEROITIC CURSIVE NUMBER ONE HUNDREDlTWO HUNDREDkHREE HUNDREDnFOUR HUNDREDlIVE HUNDRE",
     "DmSIX HUNDREDkEVEN HUNDREDnEIGHT HUNDREDnNINE HUNDREDmONE THOUSANDmTWO THOUSANDlHREE THOUSAN",
     "DoFOUR THOUSANDmIVE THOUSANDnSIX THOUSANDlEVEN THOUSANDoEIGHT THOUSANDoNINE THOUSANDnTEN THO",
     "USANDlWENTY THOUSANDoHIRTY THOUSANDpFORTY THOUSANDnIFTY THOUSANDoSIXTY THOUSANDnEVENTY THOUS",
     "ANDqEIGHTY THOUSANDpNINETY THOUSANDpONE HUNDRED THOUSANDuTWO HUNDRED THOUSANDtHREE HUNDRED T",
     "HOUSANDwFOUR HUNDRED THOUSANDuIVE HUNDRED THOUSANDvSIX HUNDRED THOUSANDtEVEN HUNDRED THOUSAN",
     "DwEIGHT HUNDRED THOUSANDwNINE HUNDRED THOUSANDzdFRACTION ONE TWELFTHlTWO TWELFTHSlHREE TWELF",
     "THSoFOUR TWELFTHSmIVE TWELFTHSnSIX TWELFTHSlEVEN TWELFTHSoEIGHT TWELFTHSoNINE TWELFTHSnTEN T",
     "WELFTHSznKHAROSHTHI LETTER AiVOWEL SIGN IbUbVOCALIC R"]⟩,
  ⟨0x10A05, ["KHAROSHTHI VOWEL SIGN EbO"]⟩,
  ⟨0x10A0C, ["KHAROSHTHI VOWEL LENGTH MARKrSIGN DOUBLE RING BELOWrANUSVARAiVISARGAmLETTER KAbHAdGA",
     "bHA"]⟩,
  ⟨0x10A15, ["KHAROSHTHI LETTER CAbHAdJA"]⟩,
  ⟨0x10A19, ["KHAROSHTHI LETTER NYAdTTAbHAeDDAbHAeNNAdTAbHAdDAbHAdNAcPAbHAdBAbHAdMAcYAcRAcLAcVAcSH",
     "AcSAcAcZAcHAcKKAdTTTHAcAeVHA"]⟩,
  ⟨0x10A38, ["KHAROSHTHI SIGN BAR ABOVEjCAUDAfDOT BELOW"]⟩,
  ⟨0x10A3F, ["KHAROSHTHI VIRAMAgDIGIT ONEdTWOcHREEfFOURkNUMBER TENcWENTYgONE HUNDREDhTHOUSANDtFRAC",
     "TION ONE HALF"]⟩,
  ⟨0x10A50, ["KHAROSHTHI PUNCTUATION DOTdSMALL CIRCLEmCIRCLEfRESCENT BARmMANGALAMiLOTUSfDANDAeOUBL",
     "E DANDAmLINES"]⟩,
  ⟨0x10A60, ["OLD SOUTH ARABIAN LETTER HEcLAMEDHgHETHeMEMdQOPHeWAWdSHINeRESHeBETHeTAWdSATdKAPHeNUN",
     "dKHETHfSADHEdMEKHgFEcALEFdYNdDHADHEgGIMELfDALETHgGHAYNfTETHeZAYNeDHALETHhYODHeTHAWcETHmNUMBE",
     "R ONEdFIFTYjERIC INDICATORzgNORTH ARABIAN LETTER HEHdLAMdHAHdMEEMeQAFdWAWdES-2eREHdBEHdTEHdE",
     "S-1eKAFdNOONeKHAHeSADdES-3eFEHdALEFdINdDADdGEEMeDALdGHAINfTAHdZAINeTHALeYEHdTHEHeZAHkNUMBER ",
     "ONEdTENcWENTY"]⟩,
  ⟨0x10AC0, ["MANICHAEAN LETTER ALEPHfBETHdHETHfGIMELeHIMELgDALETHgHEcWAWkSIGN UDhLETTER ZAYINeHAY",
     "INgJAYINeHAYINgHETHeTETHeYODHeKAPHeXAPHeKHAPHfLAMEDHgDHAMEDHhTHAMEDHhMEMdNUNdSAMEKHgAYINdAYI",
     "NfPEcFEcSADHEfQOPHeXOPHeQHOPHfRESHeSHINdSHINfTAWkABBREVIATION MARK ABOVEfBELOW"]⟩,
  ⟨0x10AEB, ["MANICHAEAN NUMBER ONEdFIVEeTENcWENTYgONE HUNDREDsPUNCTUATION STAReFLEURONhDOUBLE DOT",
     " WITHIN DOTtT WITHIN DOTmTdTWO DOTSiLINE FILLER"]⟩,
  ⟨0x10B00, ["AVESTAN LETTER AaAbObAOcNbANcEaEdEaEcOaOcIaIcUaUcKEcXEbYEcVEdGEbGEcHEdCEcJEcTEbHEdDE",
     "bHEdTTEdPEcFEcBEbHEdNGEbYEcVEdEbYEcNEdMEcHMEdYYEcEcVEcREcLEcSEcZEcSHEdZHEdSHYEdSHEeHE"]⟩,
  ⟨0x10B39, ["AVESTAN ABBREVIATION MARKzTINY TWO DOTS OVER ONE DOT PUNCTUATIONznSMALL TWO DOTS OVE",
     "R ONE DOT PUNCTUATIONzoLARGE TWO DOTS OVER ONE DOT PUNCTUATIONziONE DOT OVER TWO DOTS PUNCTU",
     "ATIONziTWO RINGS OVER ONE RING PUNCTUATIONzkONE RING OVER TWO RINGS PUNCTUATIONzqINSCRIPTION",
     "AL PARTHIAN LETTER ALEPHfBETHeGIMELfDALETHgHEcWAWdZAYINfHETHeTETHeYODHeKAPHeLAMEDHgMEMdNUNdS",
     "AMEKHgAYINePEcSADHEfQOPHeRESHeSHINeTAW"]⟩,
  ⟨0x10B58, ["INSCRIPTIONAL PARTHIAN NUMBER ONEdTWOcHREEfFOUReTENcWENTYgONE HUNDREDhTHOUSANDzbHLAV",
     "I LETTER ALEPHfBETHeGIMELfDALETHgHEcWAW-AYIN-RESHnZAYINfHETHeTETHeYODHeKAPHeLAMEDHgMEM-QOPHi",
     "NUNdSAMEKHgPEcSADHEeHINeTAW"]⟩,
  ⟨0x10B78, ["INSCRIPTIONAL PAHLAVI NUMBER ONEdTWOcHREEfFOUReTENcWENTYgONE HUNDREDhTHOUSANDzqPSALT",
     "ER PAHLAVI LETTER ALEPHfBETHeGIMELfDALETHgHEcWAW-AYIN-RESHnZAYINfHETHeYODHeKAPHeLAMEDHgMEM-Q",
     "OPHiNUNdSAMEKHgPEcSADHEeHINeTAW"]⟩,
  ⟨0x10B99, ["PSALTER PAHLAVI SECTION MARKmTURNED SECTION MARKtFOUR DOTS WITH CROSSfDOT"]⟩,
  ⟨0x10BA9, ["PSALTER PAHLAVI NUMBER ONEdTWOcHREEfFOUReTENcWENTYgONE HUNDRED"]⟩,
  ⟨0x10C00, ["OLD TURKIC LETTER ORKHON AiYENISEI AaEkORKHON IiYENISEI IbEjORKHON OaEjYENISEI OEkOR",
     "KHON ABjYENISEI ABkORKHON AEBkYENISEI AEBlORKHON AGjYENISEI AGkORKHON AEGkYENISEI AEGlORKHON",
     " ADjYENISEI ADkORKHON AEDdEZjYENISEI EZkORKHON AYjYENISEI AYkORKHON AEYkYENISEI AEYlORKHON A",
     "EKkYENISEI AEKlORKHON OEKkYENISEI OEKlORKHON ALjYENISEI ALkORKHON AELdELTcMcANbENkYENISEI AE",
     "NlORKHON ENTkYENISEI ENTlORKHON ENCkYENISEI ENClORKHON ENYkYENISEI ENYdANGlORKHON ENGkYENISE",
     "I AENGmORKHON EPcOPcICcECjYENISEI ECkORKHON AQjYENISEI AQkORKHON IQjYENISEI IQkORKHON OQjYEN",
     "ISEI OQkORKHON ARjYENISEI ARkORKHON AERcSbEScSHkYENISEI ASHlORKHON ESHkYENISEI ESHlORKHON AT",
     "jYENISEI ATkORKHON AETkYENISEI AETlORKHON OTcBASH"]⟩,
  ⟨0x10C80, ["OLD HUNGARIAN CAPITAL LETTER AaAcEBcAMBdECbNCcCScDcANDdEbCLOSE EhEEbFbGaYcHcIaIcEJbK",
     "cAKcUNKdELaYcMbNaYdOaOcNIKOLSBURG OEnRUDIMENTA OEmOEEdEPbMPcRcSHORT ERiESaZcTbNTcTYcCHdUaUcN",
     "IKOLSBURG UEnRUDIMENTA UEmEVbZaScNT-SHAPED SIGNpUS"]⟩,
  ⟨0x10CC0, ["OLD HUNGARIAN SMALL LETTER AaAcEBcAMBdECbNCcCScDcANDdEbCLOSE EhEEbFbGaYcHcIaIcEJbKcA",
     "KcUNKdELaYcMbNaYdOaOcNIKOLSBURG OEnRUDIMENTA OEmOEEdEPbMPcRcSHORT ERiESaZcTbNTcTYcCHdUaUcNIK",
     "OLSBURG UEnRUDIMENTA UEmEVbZaScNT-SHAPED SIGNpUS"]⟩,
  ⟨0x10CFA, ["OLD HUNGARIAN NUMBER ONEdFIVEeTENdFIFTYfONE HUNDREDhTHOUSANDziHANIFI ROHINGYA LETTER",
     " AbBAcPAcTAbTAdJAcCAcHAcKHAdFAcDAbDAdRAbRAdZAcSAbHAdKAcGAcLAcMAcNAcWAcKINNA WAiYAcKINNA YAiN",
     "GAcYAdVAjVOWEL AbIbUbEbOhMARK SAKINfNA KHONNAoSIGN HARBAHAYiTAHALAeNAcSSI"]⟩,
  ⟨0x10D30, ["HANIFI ROHINGYA DIGIT ZEROeONEdTWOcHREEfFOURdIVEeSIXcEVENfEIGHTfNINE"]⟩,
  ⟨0x10E60, ["RUMI DIGIT ONEdTWOcHREEfFOURdIVEeSIXcEVENfEIGHTfNINEkNUMBER TENcWENTYfHIRTYgFORTYeIF",
     "TYfSIXTYeEVENTYhEIGHTYgNINETYgONE HUNDREDlTWO HUNDREDkHREE HUNDREDnFOUR HUNDREDlIVE HUNDREDm",
     "SIX HUNDREDkEVEN HUNDREDnEIGHT HUNDREDnNINE HUNDREDtFRACTION ONE HALFeQUARTERhTHIRDjTWO THIR",
     "DS"]⟩,
  ⟨0x10E80, ["YEZIDI LETTER ELIFeBEcPEbHEdTHEdSEcCIMcHIMcHIMfHHAdXAcDALdZALdRAbHAdZAcJAcSINcHINdAD",
     "dDADdTAcZEcEYNdXHEYNfFAcVAa ALTERNATE FORMrQAFdKAFcHAFeGAFdLAMdMIMdNUNdUMcWAWdOWcEWcHAYdYOTd",
     "ET"]⟩,
  ⟨0x10EAB, ["YEZIDI COMBINING HAMZA MARKkMADDA MARKuHYPHENATION MARK"]⟩,
  ⟨0x10EB0, ["YEZIDI LETTER LAM WITH DOT ABOVEsYOT WITH CIRCUMFLEX ABOVE"]⟩,
  ⟨0x10F00, ["OLD SOGDIAN LETTER ALEPHfFINAL ALEPHlBETHeFINAL BETHkGIMELfHEcFINAL HEiWAWdZAYINfHET",
     "HeYODHeKAPHeLAMEDHgMEMdNUNdFINAL NUNa WITH VERTICAL TAILzdSAMEKHgAYINdLTERNATE AYINoPEcSADHE",
     "fFINAL SADHEa WITH VERTICAL TAILzfRESH-AYIN-DALETHqSHINeTAWdFINAL TAWa WITH VERTICAL TAILzkN",
     "UMBER ONEdTWOcHREEfFOURdIVEeTENcWENTYfHIRTYgONE HUNDREDsFRACTION ONE HALFrLIGATURE AYIN-DALE",
     "TH"]⟩,
  ⟨0x10F30, ["SOGDIAN LETTER ALEPHfBETHeGIMELfHEcWAWdZAYINfHETHeYODHeKAPHeLAMEDHgMEMdNUNdSAMEKHgAY",
     "INePEcSADHEfRESH-AYINjSHINeTAWdFETHeLESHlINDEPENDENT SHINqCOMBINING DOT BELOWjTWO DOTS BELOW",
     "oDOT ABOVEjTWO DOTS ABOVEoCURVE ABOVEfBELOWlHOOK ABOVEfBELOWkLONG HOOK BELOWpRESH BELOWkSTRO",
     "KE BELOWwNUMBER ONEdTENcWENTYgONE HUNDREDsPUNCTUATION TWO VERTICAL BARSa WITH DOTSzcCIRCLE W",
     "ITH DOTpTWO CIRCLES WITH DOTSvHALF CIRCLE WITH DOT"]⟩,
  ⟨0x10F70, ["OLD UYGHUR LETTER ALEPHfBETHeGIMEL-HETHkWAWdZAYINfFINAL HETHkYODHeKAPHeLAMEDHgMEMdNU",
     "NdSAMEKHgPEcSADHEfRESHeSHINeTAWdLESHlCOMBINING DOT ABOVEfBELOWjTWO DOTS ABOVEfBELOWyPUNCTUAT",
     "ION BARdTWO BARSeDOTSiFOUR DOTS"]⟩,
  ⟨0x10FB0, ["CHORASMIAN LETTER ALEPHfSMALL ALEPHlBETHeGIMELfDALETHgHEcWAWdCURLED WAWkZAYINfHETHeY",
     "ODHeKAPHeLAMEDHgMEMdNUNdSAMEKHgAYINePEcRESHeSHINeTAWkNUMBER ONEdTWOcHREEfFOUReTENcWENTYgONE ",
     "HUNDRED"]⟩,
  ⟨0x10FE0, ["ELYMAIC LETTER ALEPHfBETHeGIMELfDALETHgHEcWAWdZAYINfHETHeTETHeYODHeKAPHeLAMEDHgMEMdN",
     "UNdSAMEKHgAYINePEcSADHEfQOPHeRESHeSHINeTAWjIGATURE ZAYIN-YODH"]⟩,
  ⟨0x11000, ["BRAHMI SIGN CANDRABINDUlANUSVARAiVISARGAhJIHVAMULIYAlUPADHMANIYAqLETTER AaAcIaIcUaUc",
     "VOCALIC RaRcLaLkEbAIcObAUcKAbHAdGAbHAdNGAdCAbHAdJAbHAdNYAdTTAbHAeDDAbHAeNNAdTAbHAdDAbHAdNAcP",
     "AbHAdBAbHAdMAcYAcRAcLAcVAcSHAcSAcAcHAcLLAdOLD TAMIL LLLAeRRAdNNNAvVOWEL SIGN AAcBHATTIPROLU ",
     "AAoIaIcUaUcVOCALIC RaRcLaLkEbAIcObAUmIRAMAgDANDAeOUBLE DANDAmPUNCTUATION DOTbUBLE DOTkLINEeC",
     "RESCENT BARmLOTUS"]⟩,
  ⟨0x11052, ["BRAHMI NUMBER ONEdTWOcHREEfFOURdIVEeSIXcEVENfEIGHTfNINEeTENcWENTYfHIRTYgFORTYeIFTYfS",
     "IXTYeEVENTYhEIGHTYgNINETYgONE HUNDREDhTHOUSANDtDIGIT ZEROeONEdTWOcHREEfFOURdIVEeSIXcEVENfEIG",
     "HTfNINEkSIGN OLD TAMIL VIRAMAvLETTER OLD TAMIL SHORT EbOyVOWEL SIGN OLD TAMIL SHORT EbOzdLET",
     "TER OLD TAMIL LLA"]⟩,
  ⟨0x1107F, ["BRAHMI NUMBER JOINERuKAITHI SIGN CANDRABINDUlANUSVARAiVISARGAmLETTER AaAcIaIcUaUcEbA",
     "IcObAUcKAbHAdGAbHAdNGAdCAbHAdJAbHAdNYAdTTAbHAeDDAbDHAdHAeRHAdNNAdTAbHAdDAbHAdNAcPAbHAdBAbHAd",
     "MAcYAcRAcLAcVAcSHAcSAcAcHAjVOWEL SIGN AAcIaIcUaUcEbAIcObAUnSIGN VIRAMAgNUKTAkABBREVIATION SI",
     "GNrENUMERATION SIGNqNUMBER SIGNlSECTION MARKmDOUBLE SECTION MARKsANDAeOUBLE DANDAmVOWEL SIGN",
     " VOCALIC R"]⟩,
  ⟨0x110CD, ["KAITHI NUMBER SIGN ABOVE"]⟩,
  ⟨0x110D0, ["SORA SOMPENG LETTER SAHdTAHdBAHdCAHdDAHdGAHdMAHdNGAHeLAHdNAHdVAHdPAHdYAHdRAHdHAHdKAH",
     "dJAHdNYAHeAHcEEHdIHcUHcOHcEHcMAE"]⟩,
  ⟨0x110F0, ["SORA SOMPENG DIGIT ZEROeONEdTWOcHREEfFOURdIVEeSIXcEVENfEIGHTfNINE"]⟩,
  ⟨0x11100, ["CHAKMA SIGN CANDRABINDUlANUSVARAiVISARGAmLETTER AAcIbUbEbKAAcHAAeGAAcHAAeNGAAeCAAcHA",
     "AeJAAcHAAeNYAAeTTAAcHAAfDDAAcHAAfNNAAeTAAcHAAeDAAcHAAeNAAdPAAcHAAeBAAcHAAeMAAdYYAAdAAdRAAdLA",
     "AdWAAdSAAdHAAkVOWEL SIGN AbIaIcUaUcEbAIcObAUcOInO MARKgAU MARKhVIRAMAgMAAYYAA"]⟩,
  ⟨0x11136, ["CHAKMA DIGIT ZEROeONEdTWOcHREEfFOURdIVEeSIXcEVENfEIGHTfNINEkSECTION MARKmDANDAeOUBLE",
     " DANDAmQUESTION MARKnLETTER LHAAlVOWEL SIGN AAcEInLETTER VAA"]⟩,
  ⟨0x11150, ["MAHAJANI LETTER AbIbUbEbObKAbHAdGAbHAdCAbHAdJAbHAdNYAdTTAbHAeDDAbHAeNNAdTAbHAdDAbHAd",
     "NAcPAbHAdBAbHAdMAcRAcLAcVAcSAcHAcRRAkSIGN NUKTAkABBREVIATION SIGNrSECTION MARKmLIGATURE SHRI"]⟩,
  ⟨0x11180, ["SHARADA SIGN CANDRABINDUlANUSVARAiVISARGAmLETTER AaAcIaIcUaUcVOCALIC RaRcLaLkEbAIcOb",
     "AUcKAbHAdGAbHAdNGAdCAbHAdJAbHAdNYAdTTAbHAeDDAbHAeNNAdTAbHAdDAbHAdNAcPAbHAdBAbHAdMAcYAcRAcLAb",
     "LAdVAcSHAcSAcAcHAjVOWEL SIGN AAcIaIcUaUcVOCALIC RaRcLaLkEbAIcObAUnSIGN VIRAMAgAVAGRAHAiJIHVA",
     "MULIYAlUPADHMANIYAqOMcDANDAeOUBLE DANDAmABBREVIATION SIGNrSEPARATORiANDHI MARKkIGN NUKTAkVOW",
     "EL MODIFIER MARKtEXTRA SHORT VOWEL MARKwSUTRA MARKkVOWEL SIGN PRISHTHAMATRA EzbSIGN INVERTED",
     " CANDRABINDUzDIGIT ZEROeONEdTWOcHREEfFOURdIVEeSIXcEVENfEIGHTfNINEkEKAMeSIGN SIDDHAMmHEADSTRO",
     "KEkCONTINUATION SIGNrSECTION MARK-1b2"]⟩,
  ⟨0x111E1, ["SINHALA ARCHAIC DIGIT ONEdTWOcHREEfFOURdIVEeSIXcEVENfEIGHTfNINEkNUMBER TENcWENTYfHIR",
     "TYgFORTYeIFTYfSIXTYeEVENTYhEIGHTYgNINETYgONE HUNDREDhTHOUSAND"]⟩,
  ⟨0x11200, ["KHOJKI LETTER AaAcIbUbEbAIcObAUcKAbHAdGAbGAcHAdNGAdCAbHAdJAbJA"]⟩,
  ⟨0x11213, ["KHOJKI LETTER NYAdTTAbHAeDDAbHAeNNAdTAbHAdDAbDDAdHAdNAcPAbHAdBAbBAcHAdMAcYAcRAcLAcVA",
     "cSAcHAcLLAkVOWEL SIGN AAcIaIcUbEbAIcObAUnSIGN ANUSVARAiVIRAMAgNUKTAfSHADDAlDANDAeOUBLE DANDA",
     "mWORD SEPARATORoSECTION MARKmDOUBLE SECTION MARKtABBREVIATION SIGNrSIGN SUKUN"]⟩,
  ⟨0x11280, ["MULTANI LETTER AbIbUbEbKAbHAdGA"]⟩,
  ⟨0x11288, ["MULTANI LETTER GHA"]⟩,
  ⟨0x1128A, ["MULTANI LETTER CAbHAdJAbJA"]⟩,
  ⟨0x1128F, ["MULTANI LETTER NYAdTTAbHAeDDAbDAcHAeNNAdTAbHAdDAbHAdNAcPAbHAdBA"]⟩,
  ⟨0x1129F, ["MULTANI LETTER BHAdMAcYAcRAcLAcVAcSAcHAcRRAcHAkSECTION MARK"]⟩,
  ⟨0x112B0, ["KHUDAWADI LETTER AaAcIaIcUaUcEbAIcObAUcKAbHAdGAbGAcHAdNGAdCAbHAdJAbJAcHAdNYAdTTAbHAe",
     "DDAbDAeRRAdDDHAeNNAdTAbHAdDAbHAdNAcPAbHAdBAbBAcHAdMAcYAcRAcLAcVAcSHAcAcHAjSIGN ANUSVARAnVOWE",
     "L SIGN AAcIaIcUaUcEbAIcObAUnSIGN NUKTAfVIRAMA"]⟩,
  ⟨0x112F0, ["KHUDAWADI DIGIT ZEROeONEdTWOcHREEfFOURdIVEeSIXcEVENfEIGHTfNINE"]⟩,
  ⟨0x11300, ["GRANTHA SIGN COMBINING ANUSVARA ABOVExANDRABINDUlANUSVARAiVISARGA"]⟩,
  ⟨0x11305, ["GRANTHA LETTER AaAcIaIcUaUcVOCALIC RbL"]⟩,
  ⟨0x1130F, ["GRANTHA LETTER EEcAI"]⟩,
  ⟨0x11313, ["GRANTHA LETTER OOcAUcKAbHAdGAbHAdNGAdCAbHAdJAbHAdNYAdTTAbHAeDDAbHAeNNAdTAbHAdDAbHAdN",
     "A"]⟩,
  ⟨0x1132A, ["GRANTHA LETTER PAbHAdBAbHAdMAcYAcRA"]⟩,
  ⟨0x11332, ["GRANTHA LETTER LAbLA"]⟩,
  ⟨0x11335, ["GRANTHA LETTER VAcSHAcSAcAcHA"]⟩,
  ⟨0x1133B, ["COMBINING BINDU BELOWvGRANTHA SIGN NUKTAfAVAGRAHAnVOWEL SIGN AAcIaIcUaUcVOCALIC RaR"]⟩,
  ⟨0x11347, ["GRANTHA VOWEL SIGN EEcAI"]⟩,
  ⟨0x1134B, ["GRANTHA VOWEL SIGN OOcAUnSIGN VIRAMA"]⟩,
  ⟨0x11350, ["GRANTHA OM"]⟩,
  ⟨0x11357, ["GRANTHA AU LENGTH MARK"]⟩,
  ⟨0x1135D, ["GRANTHA SIGN PLUTAkLETTER VEDIC ANUSVARAiDOUBLE ANUSVARAuOCALIC RRcLLrVOWEL SIGN VOC",
     "ALIC LaL"]⟩,
  ⟨0x11366, ["COMBINING GRANTHA DIGIT ZEROeONEdTWOcHREEfFOURdIVEeSIX"]⟩,
  ⟨0x11370, ["COMBINING GRANTHA LETTER AbKAcNAcVIcPA"]⟩,
  ⟨0x11400, ["NEWA LETTER AaAcIaIcUaUcVOCALIC RaRcLaLkEbAIcObAUcKAbHAdGAbHAdNGAbHAeCAbHAdJAbHAdNYA",
     "bHAeTTAbHAeDDAbHAeNNAdTAbHAdDAbHAdNAbHAdPAbHAdBAbHAdMAbHAdYAcRAbHAdLAbHAdWAcSHAcSAcAcHAjVOWE",
     "L SIGN AAcIaIcUaUcVOCALIC RaRcLaLkEbAIcObAUnSIGN VIRAMAgCANDRABINDUlANUSVARAiVISARGAhNUKTAfA",
     "VAGRAHAiFINAL ANUSVARAtOMcSIDDHIgDANDAeOUBLE DANDAmCOMMAfGAP FILLERkABBREVIATION SIGNrDIGIT ",
     "ZEROeONEdTWOcHREEfFOURdIVEeSIXcEVENfEIGHTfNINEjOUBLE COMMAmPLACEHOLDER MARK"]⟩,
  ⟨0x1145D, ["NEWA INSERTION SIGNoSANDHI MARKlLETTER VEDIC ANUSVARAvSIGN JIHVAMULIYAlUPADHMANIYA"]⟩,
  ⟨0x11480, ["TIRHUTA ANJIeLETTER AaAcIaIcUaUcVOCALIC RaRcLaLkEbAIcObAUcKAbHAdGAbHAdNGAdCAbHAdJAbH",
     "AdNYAdTTAbHAeDDAbHAeNNAdTAbHAdDAbHAdNAcPAbHAdBAbHAdMAcYAcRAcLAcVAcSHAcSAcAcHAjVOWEL SIGN AAc",
     "IaIcUaUcVOCALIC RaRcLaLkEbSHORT EhAIcObSHORT OhAUnSIGN CANDRABINDUlANUSVARAiVISARGAfRAMAgNUK",
     "TAfAVAGRAHAnGVANGfABBREVIATION SIGNrOM"]⟩,
  ⟨0x114D0, ["TIRHUTA DIGIT ZEROeONEdTWOcHREEfFOURdIVEeSIXcEVENfEIGHTfNINE"]⟩,
  ⟨0x11580, ["SIDDHAM LETTER AaAcIaIcUaUcVOCALIC RaRcLaLkEbAIcObAUcKAbHAdGAbHAdNGAdCAbHAdJAbHAdNYA",
     "dTTAbHAeDDAbHAeNNAdTAbHAdDAbHAdNAcPAbHAdBAbHAdMAcYAcRAcLAcVAcSHAcSAcAcHAjVOWEL SIGN AAcIaIcU",
     "aUcVOCALIC RaR"]⟩,
  ⟨0x115B8, ["SIDDHAM VOWEL SIGN EbAIcObAUnSIGN CANDRABINDUlANUSVARAiVISARGAfRAMAgNUKTAfSIDDHAMmDA",
     "NDAeOUBLE DANDAmSEPARATOR DOTdBARnREPETITION MARK-1b2b3rEND OF TEXT MARKqSECTION MARK WITH T",
     "RIDENT AND U-SHAPED ORNAMENTSsDOTTED CRESCENTSzdRAYS AND DOTTED CRESCENTSjDOUBLE CRESCENTSqT",
     "RIPLE CRESCENTSzmDOUBLE RINGa WITH RAYSvWITH DOUBLE CRESCENTSqTRIPLE CRESCENTSqQUADRUPLE CRE",
     "SCENTStSEPTUPLE CRESCENTSsCIRCLES AND RAYSeTWO ENCLOSURESoFOUR ENCLOSURESzuLETTER THREE-CIRC",
     "LE ALTERNATE IxWO-CIRCLE ALTERNATE IaIxALTERNATE UsVOWEL SIGN ALTERNATE UaU"]⟩,
  ⟨0x11600, ["MODI LETTER AaAcIaIcUaUcVOCALIC RaRcLaLkEbAIcObAUcKAbHAdGAbHAdNGAdCAbHAdJAbHAdNYAdTT",
     "AbHAeDDAbHAeNNAdTAbHAdDAbHAdNAcPAbHAdBAbHAdMAcYAcRAcLAcVAcSHAcSAcAcHAcLLAkVOWEL SIGN AAcIaIc",
     "UaUcVOCALIC RaRcLaLkEbAIcObAUnSIGN ANUSVARAiVISARGAfRAMAgARDHACANDRAqDANDAeOUBLE DANDAmABBRE",
     "VIATION SIGNrSIGN HUVA"]⟩,
  ⟨0x11650, ["MODI DIGIT ZEROeONEdTWOcHREEfFOURdIVEeSIXcEVENfEIGHTfNINE"]⟩,
  ⟨0x11660, ["MONGOLIAN BIRGA WITH ORNAMENTtROTATED BIRGAnDOUBLE BIRGA WITH ORNAMENTzbTRIPLE BIRGA",
     " WITH ORNAMENTzbBIRGA WITH DOUBLE ORNAMENTzbROTATED BIRGA WITH ORNAMENTiDOUBLE ORNAMENTzjINV",
     "ERTED BIRGAa WITH DOUBLE ORNAMENTzkSWIRL BIRGAa WITH ORNAMENTiDOUBLE ORNAMENTzhTURNED SWIRL ",
     "BIRGA WITH DOUBLE ORNAMENT"]⟩,
  ⟨0x11680, ["TAKRI LETTER AaAcIaIcUaUcEbAIcObAUcKAbHAdGAbHAdNGAdCAbHAdJAbHAdNYAdTTAbHAeDDAbHAeNNA",
     "dTAbHAdDAbHAdNAcPAbHAdBAbHAdMAcYAcRAcLAcVAcSHAcAcHAcRRAkSIGN ANUSVARAiVISARGAmVOWEL SIGN AAc",
     "IaIcUaUcEbAIcObAUnSIGN VIRAMAgNUKTAkLETTER ARCHAIC KHAsABBREVIATION SIGN"]⟩,
  ⟨0x116C0, ["TAKRI DIGIT ZEROeONEdTWOcHREEfFOURdIVEeSIXcEVENfEIGHTfNINE"]⟩,
  ⟨0x11700, ["AHOM LETTER KAbHAdNGAcAcTAcALTERNATE TAmPAbHAdBAcMAcJAcCHAdTHAdRAcLAcSAcNYAdHAcAbDAb",
     "HAdGAcALTERNATE GAmGHAdBHAdJHAdALTERNATE BA"]⟩,
  ⟨0x1171D, ["AHOM CONSONANT SIGN MEDIAL LAcRAcLIGATING RAziVOWEL SIGN AaAcIaIcUaUcEbAWcObAIbMnSIG",
     "N KILLER"]⟩,
  ⟨0x11730, ["AHOM DIGIT ZEROeONEdTWOcHREEfFOURdIVEeSIXcEVENfEIGHTfNINEkNUMBER TENcWENTYnSIGN SMAL",
     "L SECTIONmECTIONhRULAIjYMBOL VIjLETTER CAcTTAbHAeDDAbHAeNNAdLLA"]⟩,
  ⟨0x11800, ["DOGRA LETTER AaAcIaIcUaUcEbAIcObAUcKAbHAdGAbHAdNGAdCAbHAdJAbHAdNYAdTTAbHAeDDAbHAeNNA",
     "dTAbHAdDAbHAdNAcPAbHAdBAbHAdMAcYAcRAcLAcVAcSHAcSAcAcHAcRRAkVOWEL SIGN AAcIaIcUaUcVOCALIC RaR",
     "kEbAIcObAUnSIGN ANUSVARAiVISARGAfRAMAgNUKTAkABBREVIATION SIGN"]⟩,
  ⟨0x118A0, ["WARANG CITI CAPITAL LETTER NGAAeAbWIcYUbAbOcIIcUUcEbObANGdGAcKOcENYdYUJdUCcENNdODDdT",
     "TEdNUNGeDAcATbMcBUcPUcHIYOdOLOcRRdARdSSUUdIIdVIYOtSMALL LETTER NGAAeAbWIcYUbAbOcIIcUUcEbObAN",
     "GdGAcKOcENYdYUJdUCcENNdODDdTTEdNUNGeDAcATbMcBUcPUcHIYOdOLOcRRdARdSSUUdIIdVIYOrDIGIT ZEROeONE",
     "dTWOcHREEfFOURdIVEeSIXcEVENfEIGHTfNINEkNUMBER TENcWENTYfHIRTYgFORTYeIFTYfSIXTYeEVENTYhEIGHTY",
     "gNINETY"]⟩,
  ⟨0x118FF, ["WARANG CITI OMoDIVES AKURU LETTER AaAcIaIcUaUcE"]⟩,
  ⟨0x11909, ["DIVES AKURU LETTER O"]⟩,
  ⟨0x1190C, ["DIVES AKURU LETTER KAbHAdGAbHAdNGAdCAbHAdJA"]⟩,
  ⟨0x11915, ["DIVES AKURU LETTER NYAdTTA"]⟩,
  ⟨0x11918, ["DIVES AKURU LETTER DDAbHAeNNAdTAbHAdDAbHAdNAcPAbHAdBAbHAdMAcYAbYAdRAcLAcVAcSHAcSAcAc",
     "HAcLLAdZAjVOWEL SIGN AAcIaIcUaUcE"]⟩,
  ⟨0x11937, ["DIVES AKURU VOWEL SIGN AIcO"]⟩,
  ⟨0x1193B, ["DIVES AKURU SIGN ANUSVARAiCANDRABINDUlHALANTAmVIRAMAgPREFIXED NASAL SIGNtMEDIAL YAjI",
     "NITIAL RAkMEDIAL RAjSIGN NUKTAkDOUBLE DANDAmGAP FILLERkEND OF TEXT MARK"]⟩,
  ⟨0x11950, ["DIVES AKURU DIGIT ZEROeONEdTWOcHREEfFOURdIVEeSIXcEVENfEIGHTfNINE"]⟩,
  ⟨0x119A0, ["NANDINAGARI LETTER AaAcIaIcUaUcVOCALIC RaR"]⟩,
  ⟨0x119AA, ["NANDINAGARI LETTER EbAIcObAUcKAbHAdGAbHAdNGAdCAbHAdJAbHAdNYAdTTAbHAeDDAbHAeNNAdTAbHA",
     "dDAbHAdNAcPAbHAdBAbHAdMAcYAcRAcLAcVAcSHAcSAcAcHAcLLAdRRAkVOWEL SIGN AAcIaIcUaUcVOCALIC RaR"]⟩,
  ⟨0x119DA, ["NANDINAGARI VOWEL SIGN EbAIcObAUnSIGN ANUSVARAiVISARGAfRAMAgAVAGRAHAiSIDDHAMmHEADSTR",
     "OKEkVOWEL SIGN PRISHTHAMATRA E"]⟩,
  ⟨0x11A00, ["ZANABAZAR SQUARE LETTER AiVOWEL SIGN IbUEcUbEbOEcObAIbUcREVERSED IpLENGTH MARKrLETTE",
     "R KAbHAdGAbHAdNGAdCAbHAdJAcNYAdTTAbHAeDDAbHAeNNAdTAbHAdDAbHAdNAcPAbHAdBAbHAdMAcTSAbHAeDZAbHA",
     "eZHAcAc-AcYAcRAcLAcVAcSHAcSAcAcHAcKSSAlFINAL CONSONANT MARKuSIGN VIRAMAgCANDRABINDUa WITH OR",
     "NAMENTt WITH ORNAMENTuANUSVARAiVISARGAmCLUSTER-INITIAL LETTER RArFINAL LETTER YAcRAcLAcVAxIN",
     "ITIAL HEAD MARKrCLOSING HEAD MARKrMARK TSHEGfSHADeDOUBLE SHADlLONG TSHEGpINITIAL DOUBLE-LINE",
     "D HEAD MARKzfCLOSING DOUBLE-LINED HEAD MARKzfSUBJOINER"]⟩,
  ⟨0x11A50, ["SOYOMBO LETTER AiVOWEL SIGN IbUEcUbEbOaEcAIbUcVOCALIC RbLoLENGTH MARKrLETTER KAbHAdG",
     "AbHAdNGAdCAbHAdJAbHAdNYAdTTAbHAeDDAbHAeNNAdTAbHAdDAbHAdNAcPAbHAdBAbHAdMAcTSAbHAeDZAdZHAcAc-A",
     "cYAcRAcLAcVAcSHAcSAcAcHAcKSSAlSIGN JIHVAMULIYAlUPADHMANIYAqCLUSTER-INITIAL LETTER RAcLAcSHAc",
     "AzFINAL CONSONANT SIGN GbKbNGcDbNbBbMbRbLbSHcSb-AxSIGN ANUSVARAiVISARGAmGEMINATION MARKpSUBJ",
     "OINERjMARK TSHEGfSHADeDOUBLE SHADlPLUTAkHEAD MARK WITH MOON AND SUN AND TRIPLE FLAMEmFLAMElN",
     "zcTERMINAL MARK-1b2"]⟩,
  ⟨0x11AB0, ["CANADIAN SYLLABICS NATTILIK HIaIcOaOcAaAdSHRIaIcOaOcAaAoSPEbIbObAwPAU CIN HAU LETTER",
     " PAcKAcLAcMAcDAcZAcVAcNGAdHAcGAcKHAdSAcBAcCAcTAbHAdNAcPHAdRAcFAcCHAdAbEbIbObUaAcIAcFINAL PbK",
     "bTbMbNbLbWbNGcYoRISING TONE LONGgElSANDHI GLOTTAL STOPtRISING TONE LONG FINALkFINALrSANDHI G",
     "LOTTAL STOP FINALsTONE LONGgEa LONG FINALkFINALrMID-LEVEL TONEoGLOTTAL STOP VARIANTuMID-LEVE",
     "L TONE LONG FINALkFINALuLOW-FALLING TONE LONGgEqGLOTTAL STOPmLOW-FALLING TONE LONG FINALkFIN",
     "ALwGLOTTAL STOP FINAL"]⟩,
  ⟨0x11C00, ["BHAIKSUKI LETTER AaAcIaIcUaUcVOCALIC RaRcL"]⟩,
  ⟨0x11C0A, ["BHAIKSUKI LETTER EbAIcObAUcKAbHAdGAbHAdNGAdCAbHAdJAbHAdNYAdTTAbHAeDDAbHAeNNAdTAbHAdD",
     "AbHAdNAcPAbHAdBAbHAdMAcYAcRAcLAcVAcSHAcSAcAcHAjVOWEL SIGN AAcIaIcUaUcVOCALIC RaRcL"]⟩,
  ⟨0x11C38, ["BHAIKSUKI VOWEL SIGN EbAIcObAUnSIGN CANDRABINDUlANUSVARAiVISARGAfRAMAgAVAGRAHAnDANDA",
     "eOUBLE DANDAmWORD SEPARATORoGAP FILLER-1b2"]⟩,
  ⟨0x11C50, ["BHAIKSUKI DIGIT ZEROeONEdTWOcHREEfFOURdIVEeSIXcEVENfEIGHTfNINEkNUMBER ONEdTWOcHREEfF",
     "OURdIVEeSIXcEVENfEIGHTfNINEeTENcWENTYfHIRTYgFORTYeIFTYfSIXTYeEVENTYhEIGHTYgNINETYnHUNDREDS U",
     "NIT MARK"]⟩,
  ⟨0x11C70, ["MARCHEN HEAD MARKjMARK SHADjLETTER KAbHAdGAcNGAdCAbHAdJAcNYAdTAbHAdDAcNAcPAbHAdBAcMA",
     "cTSAbHAeDZAdWAcZHAcAc-AcYAcRAcLAcSHAcAcHAcA"]⟩,
  ⟨0x11C92, ["MARCHEN SUBJOINED LETTER KAbHAdGAcNGAdCAbHAdJAcNYAdTAbHAdDAcNAcPAbHAdBAcMAcTSAbHAeDZ",
     "AdWAcZHAcA"]⟩,
  ⟨0x11CA9, ["MARCHEN SUBJOINED LETTER YAcRAcLAcSHAcAcHAcAsVOWEL SIGN AAcIbUbEbOmSIGN ANUSVARAiCAN",
     "DRABINDU"]⟩,
  ⟨0x11D00, ["MASARAM GONDI LETTER AaAcIaIcUaUcE"]⟩,
  ⟨0x11D08, ["MASARAM GONDI LETTER AIcO"]⟩,
  ⟨0x11D0B, ["MASARAM GONDI LETTER AUcKAbHAdGAbHAdNGAdCAbHAdJAbHAdNYAdTTAbHAeDDAbHAeNNAdTAbHAdDAbH",
     "AdNAcPAbHAdBAbHAdMAcYAcRAcLAcVAcSHAcSAcAcHAcLLAdKSSAeJNYAeTRAkVOWEL SIGN AAcIaIcUaUcVOCALIC ",
     "R"]⟩,
  ⟨0x11D3A, ["MASARAM GONDI VOWEL SIGN E"]⟩,
  ⟨0x11D3C, ["MASARAM GONDI VOWEL SIGN AIcO"]⟩,
  ⟨0x11D3F, ["MASARAM GONDI VOWEL SIGN AUnSIGN ANUSVARAiVISARGAhNUKTAfCANDRAgHALANTAmVIRAMAgREPHAe",
     "A-KARA"]⟩,
  ⟨0x11D50, ["MASARAM GONDI DIGIT ZEROeONEdTWOcHREEfFOURdIVEeSIXcEVENfEIGHTfNINE"]⟩,
  ⟨0x11D60, ["GUNJALA GONDI LETTER AaAcIaIcUaU"]⟩,
  ⟨0x11D67, ["GUNJALA GONDI LETTER EEcAI"]⟩,
  ⟨0x11D6A, ["GUNJALA GONDI LETTER OOcAUcYAcVAcBAbHAdMAcKAbHAdTAbHAdLAcGAbHAdDAbHAdNAcCAbHAdTTAbHA",
     "eLLAdJAbHAdDDAbHAeNGAdPAbHAdHAcRAcSAjVOWEL SIGN AAcIaIcUaU"]⟩,
  ⟨0x11D90, ["GUNJALA GONDI VOWEL SIGN EEcAI"]⟩,
  ⟨0x11D93, ["GUNJALA GONDI VOWEL SIGN OOcAUnSIGN ANUSVARAiVISARGAmVIRAMAgOM"]⟩,
  ⟨0x11DA0, ["GUNJALA GONDI DIGIT ZEROeONEdTWOcHREEfFOURdIVEeSIXcEVENfEIGHTfNINE"]⟩,
  ⟨0x11EE0, ["MAKASAR LETTER KAcGAcNGAdPAcBAcMAcTAcDAcNAcCAcJAcNYAdYAcRAcLAcVAcSAcAiANGKAfVOWEL SI",
     "GN IbUbEbOmPASSIMBANGkEND OF SECTION"]⟩,
  ⟨0x11FB0, ["LISU LETTER YHA"]⟩,
  ⟨0x11FC0, ["TAMIL FRACTION ONE THREE-HUNDRED-AND-TWENTIETHzcONE-HUNDRED-AND-SIXTIETHyEIGHTIETHjS",
     "IXTY-FOURTHmFORTIETHiTHIRTY-SECONDrTHREE EIGHTIETHSkSIXTY-FOURTHStONE TWENTIETHjSIXTEENTH-1b",
     "2lTENTHfEIGHTHkTHREE TWENTIETHSkSIXTEENTHSqONE FIFTHfQUARTERhHALF-1b2kTHREE QUARTERSoDOWNSCA",
     "LING FACTOR KIIZHziSIGN NELdCEVITUgAAZHAAKKUjUZHAKKUhMUUVUZHAKKUlKURUNIgPATHAKKUiMUKKURUNIjK",
     "AACUfPANAMeONdVARAAKANiPAARAMgKUZHIfVELIjWET CULTIVATION SIGNuDRY CULTIVATION SIGNuLAND SIGN",
     "jSALT PAN SIGNnTRADITIONAL CREDIT SIGNlNUMBER SIGNxCURRENT SIGNmAND ODD SIGNmSPENT SIGNkTOTA",
     "L SIGNkIN POSSESSION SIGNsSTARTING FROM SIGNrIGN MUTHALIYAjVAKAIYARAA"]⟩,
  ⟨0x11FFF, ["TAMIL PUNCTUATION END OF TEXTzeCUNEIFORM SIGN Aa TIMES AbBADdGAN2 TENUjHAcIGIdLAGAR ",
     "GUNUkMUSHeSAGk2bBa TIMES ASH2eDUN3 GUNUjGALbN2 TENUjHAcIGI GUNUhMINeLAGABfSHESHfU PLUS U PLU",
     "S UvGUNUf2a TIMES BALAGfGAN2 TENUjME PLUS ENkSHA3eTAK4nDbKa TIMES ERIN2fSHITA PLUS GISHxLa T",
     "IMES ALcDIM2eGISHeHAcKAD3dIcSHEdUSHkANcEPHeMARa TIMES SHEnNa OVER ANhTHREE TIMESlPLUS NAGA O",
     "PPOSING AN PLUS NAGAvSQUAREDsSHEePINdRADa TIMES KURmKABeSAL2dHa ZIDA TENUjKABA TENUjOVER ASH",
     " TUG2 OVER TUG2 TUG2 OVER TUG2 PAPziOVER ASHa CROSSING ASH OVER ASH OVER ASHzy2bGABgBAaDbG3c",
     "HAR2eLa OVER BALjAGdRaA2eIa TIMES AbGARdIGI GUNUqUa OVER BU ABcUNkCROSSING BUmLUGa OVER BULU",
     "GoRa2eDAaGa KISIM5 TIMES A PLUS MASHkMAReBALAGeIcGAa PLUS MASHlIaR2dUDdHAcIRa PLUS LUkKAKdLA",
     "bUa PLUS MASH2lMdNEcPAP PLUS PAPmSIcTAK4eU2 PLUS GIR2lSHsMbRaA3b4eIaBbMa TIMES SHEk2cNa KASK",
     "AL U GUNU DISHuSHdUa OVER DUhGUNUeSHESHIGiBa TIMES ESH2l2cGaUDdHbNa3a GUNUa GUNUl4cR2eEa TIM",
     "ES PAPjOVER E NUN OVER NUNu2a TIMES A PLUS HA PLUS DArGARdMIcSALcHEdUjDINdGIRdLbNa TIMES GAN",
     "2a TENUjMEiCROSSING ENlOPPOSING ENlSQUAREDjRENcIN2eSH2dZENa TIMES Aa PLUS LALa TIMES LALtNcB",
     "ADdDUN3 GUNUa GUNUoHAa GUNUhIGI GUNUiKASKALa SQUAREDnU3dLAaL TIMES LALmIbUcU2bDnGAa GUNUf2a ",
     "TIMES A PLUS DA PLUS HAkHAcIGIjB2 TENU PLUS TABqNbSHa2 PLUS GALnBADbR PLUS RAkURa PLUS RAlDA",
     "bIaM TIMES SHEmUBdELa PLUS LAjNa TIMES GAN2 TENUsGAN2 TENUhRcIa4a PLUS AiR2 PLUS SUmHA PLUS ",
     "LU PLUS ESH2sLa PLUS LAkI PLUS LIjUB2eIGI GUNUhSH PLUS HU PLUS ASHuKAKbSKALfIDa PLUS LALlU3 ",
     "PLUS ANlLAcME PLUS ENjIcNUNa OVER NUNmPAcSALbRcHEa PLUS TURkIDdUMdTAK4eUaDa PLUS DUqOVER GA2",
     "kBAa CROSSING GABAqDa OVER GAD GAR OVER GARxLa GAD OVER GAD GAR OVER GARzbAMdMbNa2a TENUeOVE",
     "R GAN2jCROSSING GAN2qRa3cSHANfESHTINa TIMES KURqIa TIMES EbUhCROSSING GIm4a OVER GI4iCROSSIN",
     "G GI4oDIMdR2a GUNUg3a TIMES A PLUS IGIkGAN2 TENUjIGIdLU PLUS IGIlPAlSALcHa CROSSING GISHnTIM",
     "ES BADdTAK4jENUiUa CROSSING GUm2a TIMES KAKa TIMES IGI GUNUsNUNdSAL PLUS TUG2tGUNUgDa TIMES ",
     "A PLUS KURkKURjOVER GUD LUGALqLbMa TIMES SHElRa7bUNbSHgHAa TENUeGUNUfLcIa TIMES ASHa2eBADdDI",
     "SHeGADdKINdNUNdSHEdUjUaB2a TIMES ANcHALdKASKALgLISHeUDlL2eIa AcBbDIMa OVER IDIM BURdSQUAREDv",
     "GaIa DIBdRIcOVER IGI SHIR OVER SHIR UD OVER UDzjGUNUhLa TIMES GAN2 TENUq2cMa TIMES TAK4kCROS",
     "SING IMlOPPOSING IMlSQUAREDiINdNbRbSHdKAa TIMES AaDa PLUS KU3kSH2eBADbLAGdRcIcERIN2eSH2eGAaL",
     "bN2 TENUhRa PLUS SHA3 PLUS AtIaR2cSH PLUS SARiCROSSING GISHrUaR7eIGIcMcKAKcIaDdLIbUcMEa PLUS",
     " DUcGIcTEjIa PLUS NUNUZnNEbUNdPIcRUcSAaRcHAbEbIDcUcIGcUHURfTARdUa2bDbMUM TIMES PAmSHdZIj2a C",
     "ROSSING KA2oBbD2b3b4b5a OVER KAD5mKa TIMES IGI GUNUqLa TIMES BADjCROSSING KALoM2b4cSKALa LAG",
     "AB TIMES U OVER LAGAB TIMES UzhOVER KASKAL LAGAB TIMES U OVER LAGAB TIMES UzzESH2eIa TIMES B",
     "ADdUaDjDbNbSALcHbIM5a OVER KISIM5rUa OVER HI TIMES ASH2 KU OVER HI TIMES ASH2zq3b4a VARIANT ",
     "FORMo7bLa GUNUgNbRa OPPOSING KURoSHU2fWU318gLAaGABa TIMES Aa PLUS DA PLUS HAkGARdLALjLbNbSH ",
     "ZIDA TENUnBADcIcDARdENcGAaRcUDa PLUS GUDmHAaLcI TIMES NUNmIGI GUNUhMa PLUS HAcLUkKIaNcU3bLa ",
     "PLUS HI PLUS AsLAGABeISHdUaLdMEa PLUS ENjUSHeNEcSHE PLUS SUMkITA PLUS GISH PLUS ERIN2kTENUsU",
     "2a PLUS SHU2nUMdTAGbK4dE PLUS A PLUS SU PLUS NAzUa PLUS AbU PLUS Uo2 PLUS ASHkDbSHjSQUAREDjR",
     "a TIMES SHEa PLUS SUMsGUNUa OVER LAGAR GUNU SHEzdHSHUeLa TIMES LALlMa TIMES KURa PLUS RUuIaL",
     "bMMU2eSHdUa TIMES BADk2a TIMES ALcBADdESH2a TENUjGAN2 TENUjHI TIMES BADmIMcKAD2b3a PLUS ASHm",
     "IcLA PLUS ASHjGABfME PLUS ENkNEbUcSI PLUS ASHjK2 PLUS BUmTUG2jENUeCROSSING LU2mOPPOSING LU2m",
     "SQUAREDgHESHIGj3bGALa OVER LUGALjPPOSING LUGALoSHESHIGlHbLbMa OVER LUMa GAR OVER GARzMAa TIM",
     "ES TAK4kGUNUf2bHbRbSHa2eEaScIaNcUa OVER MUiGa GUNUgNSUBeRGU2eSHa TIMES AbKURdZAiOVER MUSHa T",
     "IMES A PLUS NAzCROSSING MUSHo3a TIMES Aa PLUS DIjDIiGUNUkNAa2bGAa INVERTEDiTIMES SHU TENUoOP",
     "POSING NAGAoRdM NUTILLUjMa2dEa TIMES AbUDiSHESHIGjIa TIMES Ei2bMa TIMES GAN2 TENUhR PLUS GAN",
     "2 TENUzbNDA2a TIMES ANbSHa PLUS ASHmGUDdME PLUS GAN2 TENUrNEbUNdSHEa PLUS A ANdSHa PLUS ASHv",
     "U2 PLUS ASHkSHoSAGeUa11cNa LAGAR TIMES GARdMASHeSALa OVER NUN LAGAR TIMES SALzdUSHpTENUeOVER",
     " NUNiCROSSING NUNa LAGAR OVER LAGARzfUZa AB2 TIMES ASHGABgBIcDUGdGUDdIGI GUNUiKAD3eLAcNEcSIL",
     "A3fU2mKISIM5 TIMES BIa UxPAaDbNbPcESH2eIa TIMES AaBcBIbUcEbIaBcUa2iCROSSING PImRIGa TIMES KA",
     "LdUDcZAiOPPOSING PIRIGuRAaBcIbUcSAaG NUTILLUjGa TIMES AbDUaBdHAcKAKcURdLUMdMIcNUNdSALcHIDeTA",
     "BdU2bBbMbRbSHjOVER SAGiGUNUgLa LAGAB TIMES ASH2sNGA2eRcHAa3a TIMES AbBADdGISHeNEcSHU2eTURdUa",
     " PLUS Aq6bB6cR2dEa HUcOVER SHE GAD OVER GAD GAR OVER GARzTAB OVER TAB GAR OVER GARzkG9cNbSHa",
     "2bLAMgIDa TIMES AbIMkMa TIMES AbBALcULUGfDINdGARdIGIa GUNUiKUSHU2gLULdMUGdSALlNIGdRa TENUeOV",
     "ER SHIR BUR OVER BURyTAdUa OVER INVERTED SHUs2bBURfIa GUNUfGa4a OVER SIG4 SHU2rK2cLA3eUa OVE",
     "R SUiDa2cHURdMaASHeRa9eTAa ASTERISKiTIMES HIcMIiGUNUfBa OVER TAB NI OVER NI DISH OVER DISHzj",
     "SQUAREDjGa TIMES BIcGUDdSHEbUdTUG2eUDkK4cRcEa GUNUgIa TENUfLbRa TIMES TAK4kOVER TIRa GAD OVE",
     "R GAD GAR OVER GARzmUaG2cKbMbRa OVER TUR ZA OVER ZAxUa GUDdU UdOVER U PA OVER PA GAR OVER GA",
     "RxSUR OVER SURmU REVERSED OVER U REVERSEDzj2bBbDa KUSHU2gTIMES BADdMIcU PLUS U PLUS Ua GUNUz",
     "bGUNUeSHESHIGa TIMES BADsUGdMa TIMES LAGABfME PLUS DAkSHA3eUiBINdUMa TIMES KASKALgPAmNa GUNU",
     "gRa CROSSING URlSHESHIGi2a TIMES A PLUS HAcNAiLcHAcNUNdU2a PLUS ASHdBIs4bIa3cUa TIMES AaSHGA",
     "BgBARdDUNdGAaLbN2 TENUhRcUcHAcIGIcMbSHdKIcLUMdMINdPAcSHEcIG4eTUcU PLUS GUDjDbRUDAmDAa TIMES ",
     "UmSHa TIMES AbKUaRdTAK4lXb2bUMXfTUKIeZ3a TIMES KASKALoUdZAa TENUeSQUARED TIMES KURsGbMXdE2cI",
     "a OVER ZIi3bBa KABA TENUlGbZ2dUa5a TIMES AjBURdMdKAP ELAMITElAB TIMES NUNk2 TIMES AkMAR TIME",
     "S KUGoDAG KISIM5 TIMES U2 PLUS MASHzb3dISH PLUS SHUmUB TIMES SHEnEZEN TIMES GUDdSHEoGA2 TIME",
     "S AN PLUS KAK PLUS ArSH2nE22dIGdHUSHeKA TIMES ANSHEeSH3eGISHdUDdHI TIMES ASH2nLUMdPAcSHULeTU",
     "cUR2mLAGAB TIMES GInU2 SHESHIG TIMES BADrTIMES ESH2 PLUS LALnSHUnMESHdUSH3 TIMES ZAoNA4cINa9",
     "bDA2 TIMES BALdGIoU11 ROTATED NINETY DEGREESzcPESH2 ASTERISKnIR2eSAG TIMES IGI GUNUsTI2dUM T",
     "IMES MEk U"]⟩,
  ⟨0x12400, ["CUNEIFORM NUMERIC SIGN TWO ASHgHREE ASHjFOUR ASHhIVE ASHiSIX ASHgEVEN ASHjEIGHT ASHj",
     "NINE ASHiTHREE DISHkFOUR DISHiIVE DISHjSIX DISHhEVEN DISHkEIGHT DISHkNINE DISHjFOUR UfIVE Ug",
     "SIX UeEVEN UhEIGHT UhNINE UgONE GESH2jTWO GESH2iHREE GESH2lFOUR GESH2jIVE GESH2kSIX GESH2iEV",
     "EN GESH2lEIGHT GESH2lNINE GESH2kONE GESHUjTWO GESHUiHREE GESHUlFOUR GESHUjIVE GESHUkTWO SHAR",
     "2iHREE SHAR2a VARIANT FORMyFOUR SHAR2jIVE SHAR2kSIX SHAR2iEVEN SHAR2lEIGHT SHAR2lNINE SHAR2k",
     "ONE SHARUjTWO SHARUiHREE SHARUa VARIANT FORMyFOUR SHARUjIVE SHARUkSHAR2 TIMES GAL PLUS DISHe",
     "MINyONE BURUiTWO BURUhHREE BURUa VARIANT FORMxFOUR BURUiIVE BURUjTHREE VARIANT FORM ESH16c21",
     "yFOUR VARIANT FORM LIMMUa4b AbBzSIX VARIANT FORM ASH9uEVEN VARIANT FORM IMIN3b AbBzEIGHT VAR",
     "IANT FORM USSUa3yNINE VARIANT FORM ILIMMUa3b4b AzbTWO ASH TENUlHREE ASH TENUoFOUR ASH TENUmI",
     "VE ASH TENUnSIX ASH TENUmONE BAN2iTWO BAN2hHREE BAN2kFOUR BAN2a VARIANT FORMvIVE BAN2a VARIA",
     "NT FORMwNIGIDAMINdESHjONE ESHE3jTWO ESHE3jONE THIRD DISHoTWO THIRDS DISHpFIVE SIXTHS DISHqON",
     "E THIRD VARIANT FORM AyTWO THIRDS VARIANT FORM AzONE EIGHTH ASHkQUARTER ASHoLD ASSYRIAN ONE ",
     "SIXTHfQUARTERxNE QUARTER GURlHALF GURmELAMITE ONE THIRDjTWO THIRDSkFORTYeIFTYnFOUR U VARIANT",
     " FORMsIVE U VARIANT FORMtSIX U VARIANT FORMrEVEN U VARIANT FORMuEIGHT U VARIANT FORMuNINE U ",
     "VARIANT FORM"]⟩,
  ⟨0x12470, ["CUNEIFORM PUNCTUATION SIGN OLD ASSYRIAN WORD DIVIDERzVERTICAL COLONoDIAGONAL COLONfT",
     "RICOLONiQUADCOLON"]⟩,
  ⟨0x12480, ["CUNEIFORM SIGN AB TIMES NUN TENUiSHU2mD TIMES ESH2nBAD TIMES DISH TENUrHAR2 TIMES AB",
     "2dNIcZAoU OVER BU TIMES NA2uDA TIMES TAK4lG TIMES KURmIM TIMES IGIdU U Um2 TIMES UDmUG TIMES",
     " ANSHEeSHa AT LEFTlDINcUNdERIN2fGAbIaR2 GUNUhSHeHAbIcIGI GUNUiKASKALfURbSHU2a PLUS KASKALsLA",
     "K-020fMa TIMES KURmUH PLUS GISHnMASHdEScIcNIcPIcSHEcI GUNUrE2 TIMES KURdPAPlRIN2 XgSH2 CROSS",
     "ING ESH2rZEN SHESHIG TIMES ASHdHIcIGI GUNUiLAaLdMEaSdSUqTIMES SUnGA2 TIMES BAHAR2gDIM GUNUhU",
     "G TIMES IGI GUNUiKASKALqERENeGAaR PLUS DIcNElHA PLUS AjKUSHU2 PLUS KASKALsLAMa TIMES KURmUHd",
     "MUSHeNEa PLUS E2cGIkSHIMeZIZ2mBA ROTATED NINETY DEGREESzbESHTIN TIMES UoISH TIMES GISH CROSS",
     "ING GISHzdU2 TIMES IGI GUNUqD PLUS GISH TIMES TAK4yHA TENU GUNUlI TIMES ASH OVER HI TIMES AS",
     "HzfKA TIMES BUcKAcU U UeRlLAGAB TIMES ZU OVER ZUuK-003c21b5c30c50b1c62c79 OVER LAK-079 GUNUu",
     "80b1 OVER LAK-081p92d130c42d210b9c20b5b8c38c65b6d343b7b8c83b4c90d441b9a TIMES GUcIGIdPAP PLU",
     "S LU3dPAP PLUS LU3vU2 PLUS BAt50b7c70c83c90b2b3b5d550d608c17a TIMES ASHdBADdDUN3 GUNU GUNUoK",
     "U3dLAcTARcEcU2bDbRUDAo36c48a TIMES DUBdGAcIGIa GUNUiNIcPAP PLUS PAP PLUS LU3vSHESH PLUS KInU",
     "DbRUDAp724c49gU2 GUNU TIMES ASHoTIMES DISHeHALdPAPa PLUS PAP PLUS LU3vTAK4oMI PLUS ZA7kUSH O",
     "VER MUSH TIMES GAcKAKyNINDA2 TIMES DIM GUNUiGISHdULdHIcKESH2fLAK-050hMASHePAP PLUS PAPmUa PL",
     "US UhRUDAsSAG GUNU TIMES HAnTIMES ENcSHE AT LEFTlTAK4nHA6 TENUhE OVER SHEiPLUS HUB2eNAM2eSAR",
     "kU2 PLUS DUG TIMES NImE2 TIMES ANuI TIMES TAK4nTAK4 PLUS SAGmUM TIMES GAN2 TENUjTHREE DISHuU",
     "R2 INVERTEDiTIMES UDkU TIMES DARA3fLAK-668gU3nZA7cU OVER ZU PLUS SARr5 TIMES THREE DISH TENU"]⟩,
  ⟨0x12F90, ["CYPRO-MINOAN SIGN CM001b2b4b5b6b7b8b9c10b1b2aBc3b5b7b9c21b3b4b5b6b7b8b9c30b3b4b5b6b7",
     "b8b9c40b1b4b6b7b9c50b1b2b3b4b5b6b8b9c60b1b2b3b4b6b7b8b9c70b1b2b3b4b5aBc6b8b9c80b1b2b3b4b5b6b",
     "7b8b9c90b1b2b4b5b6b7b8b9d100b1b2b3b4b5b7b8b9c10b2b4d301b2"]⟩,
  ⟨0x13000, ["EGYPTIAN HIEROGLYPH A001b2b3b4b5aAc6aAbBc7b8b9c10b1b2b3b4aAc5b6b7aAc8b9c20b1b2b3b4b5",
     "b6b7b8b9c30b1b2aAc3b4b5b6b7b8b9c40aAc1b2aAc3aAc4b5aAc6b7b8b9c50b1b2b3b4b5b6b7b8b9c60b1b2b3b4",
     "b5b6b7b8b9c70eB001b2b3b4b5aAc6b7b8b9eC001b2aAbBbCc3b4b5b6b7b8b9c10aAc1b2b3b4b5b6b7b8b9c20b1b",
     "2b3b4eD001b2b3b4b5b6b7b8aAc9c10b1b2b3b4b5b6b7b8b9c20b1b2b3b4b5b6b7aAc8b9c30b1aAc2b3b4aAc5b6b",
     "7b8b9c40b1b2b3b4b5b6aAc7b8aAc9c50aAbBbCbDbEbFbGbHbIc1b2aAc3b4aAc5b6b7b8b9c60b1b2b3b4b5b6b7aA",
     "bBbCbDbEbFbGbHfE001b2b3b4b5b6b7b8aAc9aAd10b1b2b3b4b5b6aAc7aAc8b9c20aAc1b2b3b4b5b6b7b8aAc9c30",
     "b1b2b3b4aAc6b7b8eF001aAc2b3b4b5b6b7b8b9c10b1b2b3aAc4b5b6b7b8b9c20b1aAc2b3b4b5b6b7b8b9c30b1aA",
     "c2b3b4b5b6b7aAc8aAc9c40b1b2b3b4b5aAc6aAc7aAc8b9c50b1aAbBbCc2b3eG001b2b3b4b5b6aAc7aAbBc8b9c10",
     "b1aAc2b3b4b5b6b7b8b9c20aAc1b2b3b4b5b6aAc7b8b9c30b1b2b3b4b5b6aAc7aAc8b9c40b1b2b3aAc4b5aAc6b7b",
     "8b9c50b1b2b3b4eH001b2b3b4b5b6aAc7b8eI001b2b3b4b5aAc6b7b8b9aAd10aAc1aAc2b3b4b5eK001b2b3b4b5b6",
     "b7b8eL001b2aAc3b4b5b6aAc7b8eM001aAbBc2b3aAc4b5b6b7b8b9c10aAc1b2aAbBbCbDbEbFbGbHc3b4b5aAc6aAc",
     "7aAc8b9c20b1b2aAc3b4aAc5b6b7b8aAc9c30b1aAc2b3aAbBc4b5b6b7b8b9c40aAc1b2b3b4eN001b2b3b4b5b6b7b",
     "8b9c10b1b2b3b4b5b6b7b8aAbBc9c20b1b2b3b4b5aAc6b7b8b9c30b1b2b3aAc4aAc5aAc6b7aAc8b9c40b1b2dL001",
     "b2b3b4b5aAc6b7b8b9c10b1b2b3b4b5b6b7aAc8b9c20eU001b2b3b4b5b6b7b8b9c10aAc1aAc2b3b4b5b6b7b8aAc9",
     "c20b1b2aAgO001aAc2b3b4b5aAc6aAbBbCbDbEbFc7b8b9c10aAbBbCc1b2b3b4b5b6b7b8b9aAd20aAc1b2b3b4aAc5",
     "aAc6b7b8b9aAd30aAc1b2b3aAc4b5b6aAbBbCbDc7b8b9c40b1b2b3b4b5b6b7b8b9c50aAbBc1eP001aAc2b3aAc4b5",
     "b6b7b8b9c10b1eQ001b2b3b4b5b6b7eR001b2aAc3aAbBc4b5b6b7b8b9c10aAc1b2b3b4b5b6aAc7b8b9c20b1b2b3b",
     "4b5b6b7b8b9eS001b2aAc3b4b5b6aAc7b8b9c10b1b2b3b4aAbBc5b6b7aAc8b9c20b1b2b3b4b5b6aAbBc7b8b9c30b",
     "1b2b3b4b5aAc6b7b8b9c40b1b2b3b4b5b6eT001b2b3aAc4b5b6b7aAc8aAc9aAd10b1aAc2b3b4b5b6aAc7b8b9c20b",
     "1b2b3b4b5b6b7b8b9c30b1b2aAc3aAc4b5b6eU001b2b3b4b5b6aAbBc7b8b9c10b1b2b3b4b5b6b7b8b9c20b1b2b3a",
     "Ac4b5b6b7b8b9aAd30b1b2aAc3b4b5b6b7b8b9c40b1b2eV001aAbBbCbDbEbFbGbHbIc2aAc3b4b5b6b7aAbBc8b9c1",
     "0b1aAbBbCc2aAbBc3b4b5b6b7b8b9c20aAbBbCbDbEbFbGbHbIbJbKbLc1b2b3aAc4b5b6b7b8aAc9aAd30aAc1aAc2b",
     "3aAc4b5b6b7aAc8b9c40aAfW001b2b3aAc4b5b6b7b8b9aAd10aAc1b2b3b4aAc5b6b7aAc8aAc9c20b1b2b3b4aAc5e",
     "X001b2b3b4aAbBc5b6aAc7b8aAfY001aAc2b3b4b5b6b7b8eZ001b2aAbBbCbDc3aAbBc4aAc5aAc6b7b8b9c10b1b2b",
     "3b4b5aAbBbCbDbEbFbGbHbIc6aAbBbCbDbEbFbGbHfAA001b2b3b4b5b6b7aAbBc8b9c10b1b2b3b4b5b6b7b8b9c20b",
     "1b2b3b4b5b6b7b8b9c30b1b2"]⟩,
  ⟨0x13430, ["EGYPTIAN HIEROGLYPH VERTICAL JOINERpHORIZONTAL JOINERrINSERT AT TOP STARTjBOTTOM STA",
     "RTmTOP ENDhBOTTOM ENDuOVERLAY MIDDLEoBEGIN SEGMENTnEND SEGMENT"]⟩,
  ⟨0x14400, ["ANATOLIAN HIEROGLYPH A001b2b3b4b5b6b7b8b9c10aAc1b2b3b4b5b6b7b8b9c20b1b2b3b4b5b6aAc7b",
     "8b9c30b1b2b3b4b5b6b7b8b9aAd40b1aAc2b3b4b5aAc6aAbBc7b8b9c50b1b2b3b4b5b6b7b8b9c60b1b2b3b4b5b6a",
     "AbBbCc7b8b9c70b1b2b3b4b5b6b7b8b9c80b1b2b3b4b5b6b7b8b9c90b1b2b3b4b5b6b7aAc8aAc9d100aAc1aAc2aA",
     "c3b4aAbBbCc5aAbBc6b7aAbBbCc8b9c10aAbBc1b2b3b4b5aAc6b7b8b9c20b1b2b3b4b5aAc6b7b8b9c30b1b2b3b4b",
     "5aAc6b7b8b9c40b1b2b3b4b5b6b7b8b9c50b1b2b3b4b5b6b7b8b9c60b1b2b3b4b5b6b7b8b9c70b1b2b3b4b5b6b7b",
     "8b9c80b1b2b3b4b5b6b7b8b9c90b1b2b3b4b5b6b7b8b9d200b1b2aAbBc3b4b5b6b7aAc8b9aAd10b1b2b3b4b5aAc6",
     "aAc7b8b9c20b1b2b3b4b5b6b7aAc8b9c30b1b2b3b4b5b6b7b8b9c40b1b2b3b4b5b6b7b8b9c50b1b2b3b4b5b6b7b8",
     "b9c60b1b2b3b4b5b6b7aAc8b9c70b1b2b3b4b5b6b7b8b9c80b1b2b3b4b5b6b7b8b9aAd90b1b2b3b4aAc5b6b7b8b9",
     "aAe300b1b2b3b4b5b6b7b8b9aAd10b1b2b3b4b5b6b7b8b9c20b1b2b3b4b5b6b7b8b9aAd30b1b2AbBbCc3b4b5b6aA",
     "bBbCc7b8b9c40b1b2b3b4b5b6b7b8b9c50b1b2b3b4b5b6b7b8b9aAd60b1b2b3b4aAc5b6b7b8aAc9c70b1aAc2b3b4",
     "b5b6b7b8b9c80b1aAc2b3 RA OR RIjAc4b5b6aAc7b8b9c90b1b2b3 EIGHTh4b5b6b7b8b9d400b1b2b3b4b5b6b7b",
     "8b9c10 BEGIN LOGOGRAM MARKuA END LOGOGRAM MARKu1b2b3b4b5b6b7b8b9c20b1b2b3b4b5b6b7b8b9c30b1b2",
     "b3b4b5b6b7b8b9c40b1b2b3b4b5b6b7b8b9c50aAc1b2b3b4b5b6b7aAc8b9c60b1b2b3b4b5b6b7b8b9c70b1b2b3b4",
     "b5b6b7b8b9c80b1b2b3b4b5b6b7b8b9c90b1b2b3b4b5b6b7d501b2b3b4b5b6b7b8b9c10b1b2b3b4b5b6b7b8b9c20",
     "b1b2b3b4b5b6b7b8b9c30"]⟩,
  ⟨0x16800, ["BAMUM LETTER PHASE-A NGKUE MFONkGBIEE FONjPON MFON PIPAEMGBIEEfBArNAA MFONiSHUENSHUE",
     "TkTITA MFONjNZA MFONiSHINDA PA NJInPON PA NJI PIPAEMGBIEEfBAtMAEMBGBIEEkTU MAEMBAjNGANGUgMAE",
     "MVEUXgNSUAEgVEUAENGAMkSEUNYAMhNTOQPENhKEUKEUTNDAkNKINDIgSUUdNGKUENZEUMkLAPAQeET KUThNTAP MFA",
     "AjMAEKEUPhPASHAEgGHEUAERAEjPAMSHAEhMON NGGEUAETmNZUN MEUTjU YUQ NAEjGHEUAEGHEUAEmNTAP NTAAjS",
     "ISAeMGBASAfEUNJOMNDEUQlOOMPUQhKAFAePA LEERAEWAlNDA LEERAEWAmPETdMAEMKPENiNIKAePUPdTUAEPfLUAE",
     "PfSONJAMgTEUTEUWENjMAENYIgKETdNDAANGGEUAETmKUOQeMOOMEUThSHUMeLOMMAEgFIRIeROMdKPOQeSOQdMAP PI",
     "EETjSHIRAEgNTAPeSHOQ NSHUT YUMoNYIT MONGKEUAEQpPAARAEgNKAARAEhUNKNOWNhNGGENfMAESIfNJAMeMBANY",
     "IgNYETeTEUAENgSOTdPAAMeNSHIEEgMAEMeNYIdKAQdNSHAeVEEdLUcNENcAQdMBAQgB NSHUETgTU MAEMGBIEEmSIE",
     "EdET TUgLOM NTEUMjMBA MAELEEkKIEEMfYEURAEgMBAARAEhKAMdPEESHIgYAFU LEERAEWAnLAM NSHUT NYAMoNT",
     "IEE SHEUOQlDU NJAAiGHEUGHEUAEMlPITdTU NSIEEiSHET NJAQgUAEQTUjMFON TEUAEQkBIT MBAAKETmNYI NTE",
     "UMjKEUPUQgGHEUGHENiKEUYEUXhLAANAEgPARUMfVEUMeNGKINDI MVOPkGEU MBUjWUAETfSAKEUAEhTAAMeMEUQeNG",
     "GUOQa LARGEmMFIYAQgSUEdMBEURIfONTIEENiNYAEMAEhPUNGAAMhMEUT NGGEETlFEUXeMBUOQfFEEdKEUAEMgMA N",
     "JEUAENAgUQAiLETdNGGAAMfSENeMAcKIQdNGOMgC NGKUE MAEMBAlZAdYUMdWANGKUOQiNGGENeDEUAEREEiGKAQfGH",
     "ARAEgMBEEKEETiGBAYIfNYIR MKPARAQ MEUNqTU MBITiMBEUMfPIRIEENhNDOMBUgMBAA CABBAGE-TREErKEUSHEU",
     "AEPkGHAPeKEUKAQgYU MUOMAEjNZEUMfMBUEeNSEUAENhMBITeYEUQeKPARAQfAAdSEUXeNDIDAfTAASHAEhNJUEQfTI",
     "TA YUEiSUAETfNGGUAEN NYAMmVEUXeNANSANAQiMA KEUAERIkNTAAdGGUONgLAPdMBIRIEENhGBASAQhNTEUNGBAiT",
     "EUTEUXhNGGUMfFUEdNDEUTeSAbHAQfBUNGeVEUAEPENiMBERAEgRUcNJAEMfLAMdTITUAEPhNSUOT NGOMjJEEEEgKET",
     "dNGGUeMAESIeBUAEMgLUcKUTdNJAMdGOMeWUPdNGGUEETgSOMdTENeKUOP NKAARAEmNSUNdDAMeMA NSIEEiYAAdNDA",
     "PeSHUEQeETFONgMBIcAEMBAfBANYIgKEUSEUXhMBEUXfKEUMeMBAA PICKETlYUWOQfNJEUXfMIEEdUAEeSHIQeKEN L",
     "AWdFATIGUElNGAQdAQdLIQdPINcENdTETfD MBUOeWAPdNJIdMFONeNJIEEfLIEEeNJEUTeSHEEeGGAAMAEhYAMeWUAE",
     "NfNGKUNfSHEEeNGKAPfKEUAETMEUNkTEUTeSHEUAEgNJAPeSUEdKETdYAEMMAEhKUOMeSAPdMFEUTfNDEUXfMALEERIg",
     "EUTeSEUAEQgYENdNJEUAEMhKEUOT MBUAElNGKEURIhTUcGHAAeNGKYEEgFEUFEUAETjNDEEeMGBOFUMhLEUAEPgNDON",
     "eMONIdGBEUNgPUUTeMGBIEEfFOdLUMdNSIEEPgMBAAeKWAETfNYETeTEUAENgSOTdYUWOQfKEUMeRAEMeTEEEEfNGKEU",
     "AEQiMFEUAEgNSIEETgKEUPePIPcEUTAEgNYUEeLETdNGGAAMgMFIEEfNGGWAENhYUOMePAPdYUOPeNDAMdTEUMfSUAEe",
     "KUNdNGGEUXeKIEEgTUOTeMEUNeKUQdNSUMeTEUNeMAENJEThNGGAPfLEUMeNGGUOMfSHUTeJUEQfGHEUAEgKUcREN OL",
     "DhTAEcOQdNYIdRIIdLEEEEfMEEEEfMbSUUdMUcSHIIcEUXfKYEEeNUcSHUdNTEEePEEdNIcSHOQePUQdMVOPeLOQdREN",
     " MUCHiTIcNTUUeMBAA SEVENkSAQdFAAfE NDAPeTOONeMBEUMfLAPdVOMdLOONePAAdSOMdRAQdNSHUOPfDUNePUAEe",
     "TAMdNGKAeKPEUXfWUOdSEEdNGGEUAETiPAAMeTOOdKUOPeLOMdNSHIEEfGOPeMAEMeNGKEUXeOQdSHUEfRIMGBAgNJEU",
     "XfPEEMeSAAdNGGURAEhMGBAeGHEUXfNGKEUAEMhJAEMLIhMAPdLOOTeNGGEEEEgDIQeTAEN NTEUMkSETdPUMdNDAA S",
     "OFTNESSmGGUAESHAE NYAMpYIEEeGHEUNfTUAEeYEUAEfPOcTUMAEfKEUAEfSUAENfTEUAEQgVEUAEfWEUXeLAAMePUc",
     "TAAQeGHAAMAEhNGEUREUTiSHEUAEQhMGBENeBEEeNZAQdKOMeGBETeTUMdKUETeYAPdNYI CLEAVERlYITdMFEUQfNDI",
     "AQfPIEEQfYUEQeLEUAEMgFUEdGBEUXfNGKUPfKETdMAEdNGKAAMIhGHETeFAcNTUMePEUTeYEUMeNGGEUAEgYI BETWE",
     "ENkZUQePOONeMIEEeFUETeNAEdMUAEeGHEUAEgFU IeMVIdPUAQeNGKUMfKUTdPIETeNTAPeYEUAETgNGGUPfPA PEOP",
     "LEjFU CALLgOMdNJEEeAbTOQdObIbLAQdPA PLURALjTAAbQdNDAA MY HOUSEnSHIQeYEUXeNGUAEfYUAENeOQ SWIM",
     "MINGiCOVERiUQbNdKEUXePEUXeNJEE EPOCHkPUEdWUEdFEEdVEEdLUcMIcREUXdAEdNGUAETeAdSHOaQeFU REMEDYj",
     "NAcPIcLOQdKOcMENcAaQdTEUdKIcMONdTENdFAQdGHOMgF KAcUbKUcEEcREEdTAEdNYIdLAcRIIbEEeMEEEEfTAAdND",
     "AAdJAEMfMbSUUcHIIdIbEUXeKYEEdETdNUAEdUbJUAEfYOQdSHUdYAcNSHAePEUXeNTEEeWUEdPEEdRUcNIcREUXeKEN",
     "dNGKWAENfGAeSHOdPUAEeFOMdWAcLIbOQdKOcMBENeRENdMAbObBAAeTETdKPAdSAMBAfVUEQ"]⟩,
  ⟨0x16A40, ["MRO LETTER TAcNGIdYOcMIMdBAcDAcAbPHIdKHAIeHAOdDAIdCHUdKEAAEfOLcMAEMeNINdPAcOOcObROcS",
     "HIdTHEAeEAcWAcEbKOcLANcAcHAIdRIcTEK"]⟩,
  ⟨0x16A60, ["MRO DIGIT ZEROeONEdTWOcHREEfFOURdIVEeSIXcEVENfEIGHTfNINE"]⟩,
  ⟨0x16A6E, ["MRO DANDAeOUBLE DANDAqTANGSA LETTER OZbCbQbXcAZbCbQbXcVZbCbQbXcEZbCbQbXcIZbCbQbXcUZb",
     "CbQbXcAWZbCbQbXdUIZbCbQbXdFINAL NGiLONG UEXiSHORT UEZdAWXjUECbZbQbXcIUZbCbQbXeMZbCbQbXcKAbHA",
     "dGAcNGAdSAcYAcWAcPAcNYAdPHAdBAcMAcNAcHAcLAcHTAdTAcDAcRAcNHAdSHAdCAcTSAdGHAdHTTAeTHAdXAcFAcDH",
     "AdCHAdZA"]⟩,
  ⟨0x16AC0, ["TANGSA DIGIT ZEROeONEdTWOcHREEfFOURdIVEeSIXcEVENfEIGHTfNINE"]⟩,
  ⟨0x16AD0, ["BASSA VAH LETTER ENNIeKAcSEcFAcMBEdYIEdGAHdDHIIeKPAHeJOcHWAHeWAcZOcGBUdDOcCEcUWUdTOc",
     "BAcVUcYEINePAcWADDAfAbOaOcUbEEcEbI"]⟩,
  ⟨0x16AF0, ["BASSA VAH COMBINING HIGH TONEjLOW TONEiMID TONEiLOW-MID TONEmHIGH-LOW TONExFULL STOP"]⟩,
  ⟨0x16B00, ["PAHAWH HMONG VOWEL KEEBbVdIBbVcAUBbVdUBbVcEBbVcAIBbVdOOBbVdAWBbVdUABbVdOBbVcIABbVdAB",
     "bVcWBbVcAABbVkCONSONANT VAUdNTSAUfLAUdHAUdNLAUeRAUdNKAUeQHAUeYAUdHLAUeMAUdCHAUeNCHAUfHNAUePL",
     "HAUfNTHAUeAUdAUcXAUdCAUnMARK CIM TUBdSOcKEScHAVeSUAMeHOMdTAUMnSIGN VOS THOMdSHAB CEEBoCIM CH",
     "EEMjVOS THIABfFEEMiXYEEM NTXIVfRHOdTOVdFAIBkVOS SEEViMEEJ SUABjVOS NRUAiIB YAMgXAUSeCIM TSOV",
     " ROG"]⟩,
  ⟨0x16B50, ["PAHAWH HMONG DIGIT ZEROeONEdTWOcHREEfFOURdIVEeSIXcEVENfEIGHTfNINE"]⟩,
  ⟨0x16B5B, ["PAHAWH HMONG NUMBER TENSeHUNDREDSiTEN THOUSANDSnMILLIONSiHUNDRED MILLIONSqTEN BILLIO",
     "NSlRILLIONS"]⟩,
  ⟨0x16B63, ["PAHAWH HMONG SIGN VOS LUBhXYOOeHLIdTHIRD-STAGE HLIpZWJ THAJiHNUBeNQIGeXIABeNTUJeAVcT",
     "XHEEJ CEEVlMEEJ TSEEBkTAUdLOSdMUSdCIM HAIS LUS NTOG NTOGsCUAM TSHOOJlTXWVa CHWVjPUB DAWBiNRE",
     "S TOS"]⟩,
  ⟨0x16B7D, ["PAHAWH HMONG CLAN SIGN TSHEEJgYEEGeLIScAUJeXYOOJfKOOdHAWJeMUASeTHOJdSABePHABeKHABeHA",
     "MdVAJdFAJdYAJdTSWBeKWMdVWJ"]⟩,
  ⟨0x16E40, ["MEDEFAIDRIN CAPITAL LETTER MbSbVbWbATIUeZbKPcPbTbGbFbIbKbAbJbEbBbCbUbYUcLbQbHPcNYcXb",
     "DbOEcNbRbObAIcYqSMALL LETTER MbSbVbWbATIUeZbKPcPbTbGbFbIbKbAbJbEbBbCbUbYUcLbQbHPcNYcXbDbOEcN",
     "bRbObAIcYoDIGIT ZEROeONEdTWOcHREEfFOURdIVEeSIXcEVENfEIGHTfNINEkNUMBER TENdELEVENgTWELVEfHIRT",
     "EENiFOURTEENhIFTEENhSIXTEENgEVENTEENjEIGHTEENiNINETEENpDIGIT ONE ALTERNATE FORMsTWO ALTERNAT",
     "E FORMrHREE ALTERNATE FORMzbCOMMAfFULL STOPjSYMBOL AIVAlEXCLAMATION OH"]⟩,
  ⟨0x16F00, ["MIAO LETTER PAcBAcYI PAfPLAdMAbHAdARCHAIC MAkFAcVAbFAdTAcDAcYI TTAcAfTTAdDDAdNAbHAdY",
     "I NNAgARCHAIC NAkNNAbHAeLAbYAcHAbYAeTLHAeDLHAeTLHYAfDLHYAfKAcGAcYI KAfQAbGAdNGAbHAeARCHAIC N",
     "GAlHAcXAcGHAbHAeTSSAeDZZAeNYAbHAeTSHAeDZHAeYI TSHAeDZHAhREFORMED TSHAnSHAcSAdZHAcSHAeTSAdDZA",
     "dYI TSAgSAcZAbSAcZAbSAeARCHAIC ZZAlZZYAcSYAfWAcAHcHHAdBRIdSYIdDZYIeTEbSEdRTE"]⟩,
  ⟨0x16F4F, ["MIAO SIGN CONSONANT MODIFIER BARzcLETTER NASALIZATIONtSIGN ASPIRATIONkREFORMED VOICI",
     "NGhASPIRATIONyVOWEL SIGN AaAbHHcNaGdOaOcWOcWbEaNaGdOEYdIaAaNaGdObEbIbUbNGdUaAaNaGdUbEIcNGdYa",
     "IcAEaEdERRdROUNDED ERRlERcROUNDED ERkAIcEIcAUcOUcNaGcUOGdYUIdOGbERdVWcIGcEAcIONGeUI"]⟩,
  ⟨0x16F8F, ["MIAO TONE RIGHTfTOP RIGHTjABOVEfBELOWkLETTER TONE-2b3b4b5b6b7b8gREFORMED TONE-1b2b4b",
     "5b6b8"]⟩,
  ⟨0x16FE0, ["TANGUT ITERATION MARKvNUSHU ITERATION MARKuOLD CHINESE HOOK MARKjITERATION MARKzbKHI",
     "TAN SMALL SCRIPT FILLER"]⟩,
  ⟨0x16FF0, ["VIETNAMESE ALTERNATE READING MARK CAcNHAY"]⟩,
  ⟨0x18800, ["TANGUT COMPONENT-001b2b3b4b5b6b7b8b9c10b1b2b3b4b5b6b7b8b9c20b1b2b3b4b5b6b7b8b9c30b1b",
     "2b3b4b5b6b7b8b9c40b1b2b3b4b5b6b7b8b9c50b1b2b3b4b5b6b7b8b9c60b1b2b3b4b5b6b7b8b9c70b1b2b3b4b5b",
     "6b7b8b9c80b1b2b3b4b5b6b7b8b9c90b1b2b3b4b5b6b7b8b9d100b1b2b3b4b5b6b7b8b9c10b1b2b3b4b5b6b7b8b9",
     "c20b1b2b3b4b5b6b7b8b9c30b1b2b3b4b5b6b7b8b9c40b1b2b3b4b5b6b7b8b9c50b1b2b3b4b5b6b7b8b9c60b1b2b",
     "3b4b5b6b7b8b9c70b1b2b3b4b5b6b7b8b9c80b1b2b3b4b5b6b7b8b9c90b1b2b3b4b5b6b7b8b9d200b1b2b3b4b5b6",
     "b7b8b9c10b1b2b3b4b5b6b7b8b9c20b1b2b3b4b5b6b7b8b9c30b1b2b3b4b5b6b7b8b9c40b1b2b3b4b5b6b7b8b9c5",
     "0b1b2b3b4b5b6b7b8b9c60b1b2b3b4b5b6b7b8b9c70b1b2b3b4b5b6b7b8b9c80b1b2b3b4b5b6b7b8b9c90b1b2b3b",
     "4b5b6b7b8b9d300b1b2b3b4b5b6b7b8b9c10b1b2b3b4b5b6b7b8b9c20b1b2b3b4b5b6b7b8b9c30b1b2b3b4b5b6b7",
     "b8b9c40b1b2b3b4b5b6b7b8b9c50b1b2b3b4b5b6b7b8b9c60b1b2b3b4b5b6b7b8b9c70b1b2b3b4b5b6b7b8b9c80b",
     "1b2b3b4b5b6b7b8b9c90b1b2b3b4b5b6b7b8b9d400b1b2b3b4b5b6b7b8b9c10b1b2b3b4b5b6b7b8b9c20b1b2b3b4",
     "b5b6b7b8b9c30b1b2b3b4b5b6b7b8b9c40b1b2b3b4b5b6b7b8b9c50b1b2b3b4b5b6b7b8b9c60b1b2b3b4b5b6b7b8",
     "b9c70b1b2b3b4b5b6b7b8b9c80b1b2b3b4b5b6b7b8b9c90b1b2b3b4b5b6b7b8b9d500b1b2b3b4b5b6b7b8b9c10b1",
     "b2b3b4b5b6b7b8b9c20b1b2b3b4b5b6b7b8b9c30b1b2b3b4b5b6b7b8b9c40b1b2b3b4b5b6b7b8b9c50b1b2b3b4b5",
     "b6b7b8b9c60b1b2b3b4b5b6b7b8b9c70b1b2b3b4b5b6b7b8b9c80b1b2b3b4b5b6b7b8b9c90b1b2b3b4b5b6b7b8b9",
     "d600b1b2b3b4b5b6b7b8b9c10b1b2b3b4b5b6b7b8b9c20b1b2b3b4b5b6b7b8b9c30b1b2b3b4b5b6b7b8b9c40b1b2",
     "b3b4b5b6b7b8b9c50b1b2b3b4b5b6b7b8b9c60b1b2b3b4b5b6b7b8b9c70b1b2b3b4b5b6b7b8b9c80b1b2b3b4b5b6",
     "b7b8b9c90b1b2b3b4b5b6b7b8b9d700b1b2b3b4b5b6b7b8b9c10b1b2b3b4b5b6b7b8b9c20b1b2b3b4b5b6b7b8b9c",
     "30b1b2b3b4b5b6b7b8b9c40b1b2b3b4b5b6b7b8b9c50b1b2b3b4b5b6b7b8b9c60b1b2b3b4b5b6b7b8"]⟩,
  ⟨0x1AFF0, ["KATAKANA LETTER MINNAN TONE-2b3b4b5"]⟩,
  ⟨0x1AFF5, ["KATAKANA LETTER MINNAN TONE-7b8gNASALIZED TONE-1b2b3b4b5"]⟩,
  ⟨0x1AFFD, ["KATAKANA LETTER MINNAN NASALIZED TONE-7b8"]⟩,
  ⟨0x1B000, ["KATAKANA LETTER ARCHAIC EzHIRAGANA LETTER ARCHAIC YEzENTAIGANA LETTER A-1b2b3bWOeI-1",
     "b2b3b4dU-1b2b3b4b5dE-2b3b4b5b6dO-1b2b3dKA-1b2b3b4b5b6b7b8b9b10b1cKEeI-1b2b3b4b5b6b7b8dU-1b2b",
     "3b4b5b6b7dE-1b2b3b4b5b6dO-1b2b3bKIfSA-1b2b3b4b5b6b7b8dI-1b2b3b4b5b6dU-1b2b3b4b5b6b7b8dE-1b2b",
     "3b4b5dO-1b2b3b4b5b6b7eTA-1b2b3b4dI-1b2b3b4b5b6b7dU-1b2b3b4bTOeE-1b2b3b4b5b6b7b8b9dO-1b2b3b4b",
     "5b6bRAfNA-1b2b3b4b5b6b7b8b9dI-1b2b3b4b5b6b7bTEeU-1b2b3dE-1b2b3b4b5b6bKOeO-1b2b3b4b5eHA-1b2b3",
     "b4b5b6b7b8b9b10b1eI-1b2b3b4b5b6b7dU-1b2b3dE-1b2b3b4b5b6b7dO-1b2b3b4b5b6b7b8eMA-1b2b3b4b5b6b7",
     "dI-1b2b3b4b5b6b7dU-1b2b3b4dE-1b2bMAeO-1b2b3b4b5b6eYA-1b2b3b4b5bYOeU-1b2b3b4dO-1b2b3b4b5b6eRA",
     "-1b2b3b4dI-1b2b3b4b5b6b7dU-1b2b3b4b5b6dE-1b2b3b4dO-1b2b3b4b5b6eWA-1b2b3b4b5dI-1b2b3b4b5dE-1b",
     "2b3b4dO-1b2b3b4b5b6b7eN-MU-MO-1b2zbIRAGANA LETTER ARCHAIC WUzbKATAKANA LETTER ARCHAIC YIbEcW",
     "U"]⟩,
  ⟨0x1B150, ["HIRAGANA LETTER SMALL WIbEbO"]⟩,
  ⟨0x1B164, ["KATAKANA LETTER SMALL WIbEbOcN"]⟩,
  ⟨0x1BC00, ["DUPLOYAN LETTER HbXbPbTbFbKbLbBbDbVbGbRbP NdD SdF NdK MdR SdTHcSLOAN DHiDHcKKcSLOAN ",
     "JhHLcLHcRHcMbNbJbSbM NdN MdJ MdS JdM WITH DOTkN WITH DOTkJ WITH DOTaS INSIDE AND ABOVEzdS WI",
     "TH DOTa BELOWqM SdN SdJ SdS SdM N SfN M SfJ M SfS J SfJ S WITH DOTkNa SfS Ta RdPa RfT SbR Sf",
     "WaHb RdS NbMdK R SfG R SfS Ka RfAbSLOAN OWiOAcObAOUdIbEbIEcSHORT IhUIcEEcSLOAN EHiROMANIAN I",
     "kSLOAN EEiLONG IgYEcUbEUcXWcU NdLONG UgROMANIAN UkUHcSLOAN UhOOHcWbUcWAbObIbEIcOWdNASAL UbOb",
     "IbAhPERNIN ANbMjSLOAN ENcANcONiVOCALIC M"]⟩,
  ⟨0x1BC70, ["DUPLOYAN AFFIX LEFT HORIZONTAL SECANTwMID HORIZONTAL SECANTvRIGHT HORIZONTAL SECANTx",
     "LOW VERTICAL SECANTtMID VERTICAL SECANTtHIGH VERTICAL SECANTuATTACHED SECANTgLEFT-TO-RIGHT S",
     "ECANTuTANGENTfILeE HOOKgI HOOKgTANGENT HOOK"]⟩,
  ⟨0x1BC80, ["DUPLOYAN AFFIX HIGH ACUTEfTIGHT ACUTElGRAVEfLONG GRAVEkDOTdCIRCLEgLINEeWAVEeVERTICAL"]⟩,
  ⟨0x1BC90, ["DUPLOYAN AFFIX LOW ACUTEfTIGHT ACUTElGRAVEfLONG GRAVEkDOTdCIRCLEgLINEeWAVEeVERTICALi",
     "ARROW"]⟩,
  ⟨0x1BC9C, ["DUPLOYAN SIGN O WITH CROSSrTHICK LETTER SELECTORvDOUBLE MARKlPUNCTUATION CHINOOK FUL",
     "L STOPznSHORTHAND FORMAT LETTER OVERLAPoCONTINUING OVERLAPsDOWN STEPjUP STEP"]⟩,
  ⟨0x1CF00, ["ZNAMENNY COMBINING MARK GORAZDO NIZKO S KRYZHEM ON LEFTzgNIZKO S KRYZHEM ON LEFTxTSA",
     "TA ON LEFTnGORAZDO NIZKO ON LEFTvNIZKO ON LEFTnSREDNE ON LEFToMALO POVYSHE ON LEFTuPOVYSHE O",
     "N LEFTpVYSOKO ON LEFToMALO POVYSHE S KHOKHLOM ON LEFTzgPOVYSHE S KHOKHLOM ON LEFTzbVYSOKO S ",
     "KHOKHLOM ON LEFTzGORAZDO NIZKO S KRYZHEM ON RIGHTzhNIZKO S KRYZHEM ON RIGHTyTSATA ON RIGHToG",
     "ORAZDO NIZKO ON RIGHTwNIZKO ON RIGHToSREDNE ON RIGHTpMALO POVYSHE ON RIGHTvPOVYSHE ON RIGHTq",
     "VYSOKO ON RIGHTpMALO POVYSHE S KHOKHLOM ON RIGHTzhPOVYSHE S KHOKHLOM ON RIGHTzcVYSOKO S KHOK",
     "HLOM ON RIGHTzbTSATA S KRYZHEMpMALO POVYSHE S KRYZHEMwSTRANNO MALO POVYSHEuPOVYSHE S KRYZHEM",
     "iTRANNOpVYSOKO S KRYZHEMqMALO POVYSHE STRANNOuGORAZDO VYSOKOoZELOeONcRAVNOfTIKHAYAhBORZAYAhU",
     "DARKAgPODVERTKAjLOMKAfKUPNAYAgACHKAgZEVOKfSKOBAfRAZSEKAhKRYZH ON LEFT"]⟩,
  ⟨0x1CF30, ["ZNAMENNY COMBINING TONAL RANGE MARK MRACHNOhSVETLOgTRESVETLOzbMARK ZADERZHKAjDEMESTV",
     "ENNY ZADERZHKAvOTSECHKAiPODCHASHIEa WITH VERTICAL STROKEzgCHASHKAa POLNAYApOBLACHKOiSOROCHYA",
     " NOZHKApTOCHKAgDVOETOCHIEpATTACHING VERTICAL OMETxMARK CURVED OMETlKRYZHkLOWER TONAL RANGE I",
     "NDICATORzmPRIZNAK MODIFIER LEVEL-2b3hDIRECTION FLIPoKRYZHfROG"]⟩,
  ⟨0x1CF50, ["ZNAMENNY NEUME KRYUKa TIKHYlPARAKLITiDVA V CHELNUmKLYUCHgZANOZHEKiSTOPITSAa S OCHKOM",
     "rPEREVODKAa NEPOSTOYANNAYAySTOPITSA WITH SOROCHYA NOZHKAzeCHELYUSTKAkPALKAfZAPYATAYAjGOLUBCH",
     "IK BORZYfTIKHYfMRACHNYhSVETLYgTRESVETLYtVRAKHIYA PROSTAYAiMRACHNAYAjSVETLAYAiTRESVETLAYAlKLY",
     "UCHEVAYA PROSTAYAiMRACHNAYAjSVETLAYAiTRESVETLAYAzhDOUBLE ZAPYATAYAqREVERSED CHELYUSTKAtDERBI",
     "TSAiKHAMILOhCHASHKAhPODCHASHIEkSKAMEYTSA MRACHNAYAjSVETLAYAiTRESVETLAYAkIKHAYArDEMESTVENNY K",
     "LYUCHsSKAMEYTSA KLYUCHEVAYA SVETLAYAnNEPOSTOYANNAYAoVAYA TIKHAYAtDVOECHELNAYA PROSTAYAiSVETL",
     "AYAiNEPOSTOYANNAYAoKLYUCHEVAYAziLOZHITIEa S ZAPYATOYkZAKRYTOEiS KRYZHEMtKRYZHfROGdFITAeKOBYL",
     "AgZMEYTSAhSTATYAa S ZAPYATOYiKRYZHEMhZAPYATOY I KRYZHEMsKRYZHEM I ZAPYATOYuZAKRYTAYAa S ZAPY",
     "ATOYuS ROGOMfDVUMYA ZAPYATYMIqZAPYATOY I PODCHASHIEMzgPOLKULIZMYkSTATYA NEPOSTOYANNAYAtRELA ",
     "PROSTAYAiMRACHNOTIKHAYAoKRYZHEVAYAkPOLUPOVODNAYAlVODNAYAjNEPOSTOYANNAYAoKLYUCHEPOVODNAYAjNEP",
     "OSTOYANNAYAvTIKHAYA PUTNAYApDVOECHELNAYAdOKRYZHEVAYAkPOVODNAYAkAYA KLYUCHEVAYApOPOVODNAYA KL",
     "YUCHEVAYAzgGROMNAYA WITH SINGLE ZAPYATAYAzbOPOVODNAYA WITH SINGLE ZAPYATAYAzhNAYAeOPOVODNAYA",
     "a WITH DOUBLE ZAPYATAYAzgKRYZHEVAYAa POVODNAYAzhMECHIKa POVODNYhKLYUCHEVOYdPOVODNYhNEPOSTOYA",
     "NNYzbSTRELA TRYASOGLASNAYAiPOVODNAYAjSTRELNAYAwOSOKAa SVETLAYAiTRESVETLAYAlKRYUKOVAYA SVETLA",
     "YAsLYUCHEVAYA SVETLAYAiNEPOSTOYANNAYAzhSTRELA KRYUKOVAYAa POVODNAYAjGROMNAYA WITH SINGLE ZAP",
     "YATAYAzbOPOVODNAYA WITH SINGLE ZAPYATAYAzhNAYAeOPOVODNAYAa WITH DOUBLE ZAPYATAYAzgKRYZHEVAYA",
     "a POVODNAYAzTRYASKAzKUFISMAhOBLAKOgDUDAeNEMKAfPAUK"]⟩,
  ⟨0x1D000, ["BYZANTINE MUSICAL SYMBOL PSILIfDASEIAgPERISPOMENIlOXEIA EKFONITIKONlDIPLIlVAREIA EKF",
     "ONITIKONlDIPLImKATHISTIiSYRMATIKIjPARAKLITIKIlYPOKRISISa DIPLIpKREMASTIiAPESO EKFONITIKONrEX",
     "O EKFONITIKONpTELEIAgKENTIMATAjAPOSTROFOSa DIPLIqSYNEVMAhTHITAfOLIGON ARCHAIONpGORGON ARCHAI",
     "ONpPSILONgCHAMILONiVATHYfISON ARCHAIONnKENTIMA ARCHAIONjTA ARCHAIONsSAXIMATAiPARICHONiSTAVRO",
     "S APODEXIAqOXEIAI ARCHAIONpVAREIAI ARCHAIONqAPODERMA ARCHAIONoTHEMAiKLASMAgREVMAfPIASMA ARCH",
     "AIONpTINAGMAhANATRICHISMAmSEISMAfYNAGMA ARCHAIONiMETA STAVROUuOYRANISMA ARCHAIONsTHEMAfLEMOI",
     "fDYOdTRIAdESSERAhKRATIMATAjAPESO EXO NEOnFTHORA ARCHAIONpIMIFTHORAjTROMIKON ARCHAIONrKATAVA ",
     "TROMIKONpPELASTONhSIFISTONjKONTEVMAiCHOREVMA ARCHAIONrRAPISMAhPARAKALESMA ARCHAIONpLITIKI AR",
     "CHAIONuICHADINhNANAePETASMAhKONTEVMA ALLOnTROMIKON ALLOnSTRAGGISMATAmGRONTHISMATAmISON NEOiO",
     "LIGON NEOjXEIA NEOjPETASTIhKOUFISMAiPETASTOKOUFISMApKRATIMOKOUFISMApPELASTON NEOmKENTIMATA N",
     "EO ANOk NEO ANOpYPSILIgAPOSTROFOS NEOfI SYNDESMOS NEOyYPORROIhKRATIMOYPORROONpELAFRONhCHAMIL",
     "IhMIKRON ISONlVAREIA NEOkPIASMA NEOjSIFISTON NEOnOMALONgANTIKENOMAkLYGISMAhPARAKLITIKI NEOkA",
     "LESMA NEOpETERON PARAKALESMAsKYLISMAhANTIKENOKYLISMApTROMIKON NEOmEKSTREPTONkSYNAGMA NEOjRMA",
     "fCHOREVMA NEOmEPEGERMAiSEISMA NEOkXIRON KLASMAmTROMIKOPSIFISTONqPSIFISTOLYGISMApTROMIKOLYGIS",
     "MAhPARAKALESMAsPSIFISTOPARAKALESMAtTROMIKOSYNAGMAoPSIFISTOSYNAGMApGORGOSYNTHETONoARGOSYNTHET",
     "ONnETERON ARGOSYNTHETONuOYRANISMA NEOnTHEMATISMOS ESOcXOk APLOUNjS KAI APOTHESqKATAVASMAjEND",
     "OFONONjYFEN KATOeANOiSTAVROShKLASMA ANOkDIPLI ARCHAIONoKRATIMA ARCHAIONhLLOeNEOlAPODERMA NEO",
     "kLIeDIPLIfTRIPLIfETRAPLIiKORONIShLEIMMA ENOS CHRONOUmDYO CHRONONlTRION CHRONONmESSARON CHRON",
     "ONqIMISEOS CHRONOUwGORGON NEO ANOhPARESTIGMENON ARISTERAiDEXIAzbDIGORGONa PARESTIGMENON ARIS",
     "TERA KATOeANOmDEXIAzdTRIGORGONjARGONfIMIDIARGONkDIARGONhAGOGI POLI ARGIjARGOTERIfIeMETRIAeSI",
     "eGORGIbOTERIjPOLI GORGIqMARTYRIA PROTOS ICHOSmALLI PROTOS ICHOSrDEYTEROS ICHOSoALLI DEYTEROS",
     " ICHOStTRITOS ICHOSjFONIASiETARTOS ICHOSfLEGETOS ICHOSwLEGETOS ICHOSnPLAGIOS ICHOSwISAKIA TE",
     "LOUS ICHIMATOSxAPOSTROFOI TELOUS ICHIMATOSzcFANEROSIS TETRAFONIASlMONOFONIASkDIFONIASsMARTYR",
     "IA VARYS ICHOSlPROTOVARYS ICHOSpLAGIOS TETARTOS ICHOSzgGORTHMIKON N APLOUNgDIPLOUNuENARXIS K",
     "AI FTHORA VOUwIMIFONONeTHORONkFTHORA ARCHAION DEYTEROU ICHOUxDIATONIKI PAcNANAoNAOS ICHOSkDI",
     "ATONIKI DImSKLIRON DIATONON DItDIATONIKI KEcZOcNI KATOeANOqMALAKON CHROMA DIFONIASiMONOFONIA",
     "SzgHTORA SKLIRON CHROMA VASISzbTHORA SKLIRON CHROMA SYNAFIvNENANOnCHROA ZYGOSfKLITONgSPATHIm",
     "FTHORA I YFESIS TETARTIMORIONwENARMONIOS ANTIFONIAzcYFESIS TRITIMORIONsDIESIS TRITIMORIONkET",
     "ARTIMORIONnAPLI DYO DODEKATArMONOGRAMMOS TESSERA DODEKATAzdDIGRAMMOS EX DODEKATAvTRIGRAMMOS ",
     "OKTO DODEKATAzgYFESIS APLI DYO DODEKATArMONOGRAMMOS TESSERA DODEKATAzdDIGRAMMOS EX DODEKATAv",
     "TRIGRAMMOS OKTO DODEKATAzgGENIKI DIESISgYFESISnDIASTOLI APLI MIKRIeEGALIlDIPLIfTHESEOSqSIMAN",
     "SIS THESEOSa DISIMOUhTRISIMOUhETRASIMOUsARSEOSa DISIMOUhTRISIMOUhETRASIMOUzbDIGRAMMA GGjFTOG",
     "GOS OUmSTIGMAgARKTIKO PAcVOUdGAcDIcKEcZOcNIkKENTIMATA NEO MESOl NEO MESOjTA NEO KATOl NEO KA",
     "TOpLASMA KATOlGORGON NEO KATO"]⟩,
  ⟨0x1D100, ["MUSICAL SYMBOL SINGLE BARLINEoDOUBLE BARLINEoFINAL BARLINEnREVERSE FINAL BARLINEvDAS",
     "HED BARLINEoSHORT BARLINEnLEFT REPEAT SIGNqRIGHT REPEAT SIGNqEPEAT DOTSlDAL SEGNOh CAPOhSEGN",
     "OfCODAeREPEATED FIGURE-1b2b3rFERMATAa BELOWnBREATH MARKlCAESURAhBRACEbKEThONE-LINE STAFFoTWO",
     "-LINE STAFFnHREE-LINE STAFFqFOUR-LINE STAFFoIVE-LINE STAFFpSIX-LINE STAFFkSTRING FRETBOARDuF",
     "OUR-STRING FRETBOARDvG CLEFa OTTAVA ALTAeBASSAtC CLEFgF CLEFa OTTAVA ALTAeBASSAtDRUM CLEF-1b",
     "2"]⟩,
  ⟨0x1D129, ["MUSICAL SYMBOL MULTIPLE MEASURE RESTvDOUBLE SHARPfFLATlFLAT UPcDOWNjNATURAL UPcDOWNm",
     "SHARP UPcDOWNkQUARTER TONE SHARPfFLATrCOMMON TIMEkUT TIMEiOTTAVA ALTAeBASSAmQUINDICESIMA ALT",
     "AeBASSAsMULTI RESTkWHOLE RESTkHALF RESTjQUARTER RESTmEIGHTH RESTlSIXTEENTH RESToTHIRTY-SECON",
     "D RESTsSIXTY-FOURTH RESTrONE HUNDRED TWENTY-EIGHTH RESTzfX NOTEHEADkPLUS NOTEHEADnCIRCLE X N",
     "OTEHEADrSQUARE NOTEHEAD WHITEfBLACKvTRIANGLE NOTEHEAD UP WHITEfBLACKiLEFT WHITEfBLACKkRIGHT ",
     "WHITEfBLACKlDOWN WHITEfBLACKkUP RIGHT WHITEfBLACKzhMOON NOTEHEAD WHITEfBLACKtTRIANGLE-ROUND ",
     "NOTEHEAD DOWN WHITEfBLACKzjPARENTHESIS NOTEHEADuVOID NOTEHEADnNOTEHEAD BLACKnULL NOTEHEADnCL",
     "USTER NOTEHEAD WHITEfBLACKwBREVEfWHOLE NOTEkHALF NOTEjQUARTER NOTEmEIGHTH NOTElSIXTEENTH NOT",
     "EoTHIRTY-SECOND NOTEsSIXTY-FOURTH NOTErONE HUNDRED TWENTY-EIGHTH NOTEzfCOMBINING STEMdPRECHG",
     "ESANG STEMrTREMOLO-1b2b3tFINGERED TREMOLO-1b2b3sCOMBINING AUGMENTATION DOTqFLAG-1b2b3b4b5qBE",
     "GIN BEAMkEND BEAMiBEGIN TIEjEND TIEhBEGIN SLURkEND SLURiBEGIN PHRASEmEND PHRASEkCOMBINING AC",
     "CENTgSTACCATOiTENUTOgSTACCATISSIMOnMARCATOa-STACCATOqACCENT-STACCATOpLOUREpARPEGGIATO UPcDOW",
     "NpCOMBINING DOITeRIPdFLIPeSMEARfBENDeDOUBLE TONGUEnTRIPLE TONGUExRINFORZANDOlSUBITOgZbPIANOf",
     "MEZZOfFORTEfCRESCENDOjDECRESCENDOlGRACE NOTE SLASHfNO SLASHtTRbURNeINVERTED TURNnTURN SLASHf",
     "UPhORNAMENT STROKE-1b2b3b4b5b6b7b8b9b10b1sHAUPTSTIMMElNEBENSTIMMElEND OF STIMMEnDEGREE SLASH",
     "mCOMBINING DOWN BOWiUP BOWgHARMONICiSNAP PIZZICATOyPEDAL MARKeUP MARKnHALF PEDAL MARKpGLISSA",
     "NDO UPcDOWNoWITH FINGERNAILSqDAMPa ALLiMAXIMAgLONGAfBREVISgSEMIBREVIS WHITEfBLACKqMINIMAa BL",
     "ACKmSEMIMINIMA WHITEfBLACKqFUSA WHITEfBLACKkLONGA PERFECTA RESTnIMPERFECTA RESTvBREVIS RESTl",
     "SEMIBREVIS RESTpMINIMA RESTlSEMIMINIMA RESTpTEMPUS PERFECTUM CUM PROLATIONE PERFECTAiIMPERFE",
     "CTAkPERFECTA DIMINUTION-1zvIMPERFECTUM CUM PROLATIONE PERFECTAiIMPERFECTAa DIMINUTION-1b2b3z",
     "zhCROIXfGREGORIAN C CLEFgF CLEFqSQUARE BiVIRGAfPODATUShCLIVISgSCANDICUSjCLIMACUSiTORCULUSiPO",
     "RRECTUSa FLEXUSqSCANDICUS FLEXUSqTORCULUS RESUPINUSsPES SUBPUNCTISoKIEVAN C CLEFgEND OF PIEC",
     "EmFINAL NOTEkRECITATIVE MARKpWHOLE NOTEkHALF NOTEjQUARTER NOTE STEM DOWNeUPuEIGHTH NOTE STEM",
     " DOWNeUPtFLAT SIGNqSORIeKORON"]⟩,
  ⟨0x1D200, ["GREEK VOCAL NOTATION SYMBOL-1b2b3b4b5b6b7b8b9b10b1b2b3b4b5b6b7b8b9c20b1b2b3b4c50b1b2",
     "b3b4yINSTRUMENTAL NOTATION SYMBOL-1b2b4b5b7b8b11b2b3b4b7b8b9c23b4b5b6b7b9c30b2b6b7b8b9c40b2b",
     "3b5b7b8b9c50b1b2b3b4zmCOMBINING GREEK MUSICAL TRISEMEgETRASEMEjPENTASEMEziGREEK MUSICAL LEIM",
     "MA"]⟩,
  ⟨0x1D2E0, ["MAYAN NUMERAL ZEROeONEdTWOcHREEfFOURdIVEeSIXcEVENfEIGHTfNINEeTENdELEVENgTWELVEfHIRTE",
     "ENiFOURTEENhIFTEENhSIXTEENgEVENTEENjEIGHTEENiNINETEEN"]⟩,
  ⟨0x1D300, ["MONOGRAM FOR EARTHsDIGRAM FOR HEAVENLY EARTHnUMAN EARTHlEARTHLY HEAVENfUMANjHqTETRAG",
     "RAM FOR CENTREgFULL CIRCLElMIREDfBARRIERhKEEPING SMALLnCONTRARIETYlASCENTgOPPOSITIONkBRANCHI",
     "NG OUTnDEFECTIVENESS OR DISTORTIONzbIVERGENCEkYOUTHFULNESSmINCREASEiPENETRATIONlREACHfCONTAC",
     "ThHOLDING BACKmWAITINGhFOLLOWINGjADVANCEhRELEASEfSISTANCEkEASEeJOYdCONTENTIONkENDEAVOURjDUTI",
     "ESgCHANGEgDECISIVENESSmBOLD RESOLUTIONpPACKINGhLEGIONgCLOSENESSjKINSHIPhGATHERINGjSTRENGTHiP",
     "URITYgFULLNESSiRESIDENCEjLAW OR MODELmRESPONSEiGOING TO MEETnENCOUNTERSkSTOVEfGREATNESSjENLA",
     "RGEMENTlPATTERNhRITUALgFLIGHTgVASTNESS OR WASTINGtCONSTANCYjMEASUREhETERNITYiUNITYfDIMINISHM",
     "ENTmCLOSED MOUTHmGUARDEDNESSkATHERING INmMASSINGhACCUMULATIONmEMBELLISHMENTnDOUBTfWATCHfSINK",
     "INGhINNERfDEPARTUREiARKENINGiIMMINGhEXHAUSTIONkSEVERANCEiTOPPAGEiHARDNESSiCOMPLETIONjLOSUREh",
     "FAILUREhAGGRAVATIONlCOMPLIANCEkON THE VERGEmDIFFICULTIESmLABOURINGjFOSTERING"]⟩,
  ⟨0x1D360, ["COUNTING ROD UNIT DIGIT ONEdTWOcHREEfFOURdIVEeSIXcEVENfEIGHTfNINEpTENS DIGIT ONEdTWO",
     "cHREEfFOURdIVEeSIXcEVENfEIGHTfNINEzdIDEOGRAPHIC TALLY MARK ONEdTWOcHREEfFOURdIVEzcTALLY MARK",
     " ONEdFIVE"]⟩,
  ⟨0x1D400, ["MATHEMATICAL BOLD CAPITAL AbBbCbDbEbFbGbHbIbJbKbLbMbNbObPbQbRbSbTbUbVbWbXbYbZjSMALL ",
     "AbBbCbDbEbFbGbHbIbJbKbLbMbNbObPbQbRbSbTbUbVbWbXbYbZmITALIC CAPITAL AbBbCbDbEbFbGbHbIbJbKbLbM",
     "bNbObPbQbRbSbTbUbVbWbXbYbZjSMALL AbBbCbDbEbFbG"]⟩,
  ⟨0x1D456, ["MATHEMATICAL ITALIC SMALL IbJbKbLbMbNbObPbQbRbSbTbUbVbWbXbYbZoBOLD ITALIC CAPITAL Ab",
     "BbCbDbEbFbGbHbIbJbKbLbMbNbObPbQbRbSbTbUbVbWbXbYbZjSMALL AbBbCbDbEbFbGbHbIbJbKbLbMbNbObPbQbRb",
     "SbTbUbVbWbXbYbZtSCRIPT CAPITAL A"]⟩,
  ⟨0x1D49E, ["MATHEMATICAL SCRIPT CAPITAL CbD"]⟩,
  ⟨0x1D4A2, ["MATHEMATICAL SCRIPT CAPITAL G"]⟩,
  ⟨0x1D4A5, ["MATHEMATICAL SCRIPT CAPITAL JbK"]⟩,
  ⟨0x1D4A9, ["MATHEMATICAL SCRIPT CAPITAL NbObPbQ"]⟩,
  ⟨0x1D4AE, ["MATHEMATICAL SCRIPT CAPITAL SbTbUbVbWbXbYbZjSMALL AbBbCbD"]⟩,
  ⟨0x1D4BB, ["MATHEMATICAL SCRIPT SMALL F"]⟩,
  ⟨0x1D4BD, ["MATHEMATICAL SCRIPT SMALL HbIbJbKbLbMbN"]⟩,
  ⟨0x1D4C5, ["MATHEMATICAL SCRIPT SMALL PbQbRbSbTbUbVbWbXbYbZoBOLD SCRIPT CAPITAL AbBbCbDbEbFbGbHb",
     "IbJbKbLbMbNbObPbQbRbSbTbUbVbWbXbYbZjSMALL AbBbCbDbEbFbGbHbIbJbKbLbMbNbObPbQbRbSbTbUbVbWbXbYb",
     "ZtFRAKTUR CAPITAL AbB"]⟩,
  ⟨0x1D507, ["MATHEMATICAL FRAKTUR CAPITAL DbEbFbG"]⟩,
  ⟨0x1D50D, ["MATHEMATICAL FRAKTUR CAPITAL JbKbLbMbNbObPbQ"]⟩,
  ⟨0x1D516, ["MATHEMATICAL FRAKTUR CAPITAL SbTbUbVbWbXbY"]⟩,
  ⟨0x1D51E, ["MATHEMATICAL FRAKTUR SMALL AbBbCbDbEbFbGbHbIbJbKbLbMbNbObPbQbRbSbTbUbVbWbXbYbZpDOUBL",
     "E-STRUCK CAPITAL AbB"]⟩,
  ⟨0x1D53B, ["MATHEMATICAL DOUBLE-STRUCK CAPITAL DbEbFbG"]⟩,
  ⟨0x1D540, ["MATHEMATICAL DOUBLE-STRUCK CAPITAL IbJbKbLbM"]⟩,
  ⟨0x1D546, ["MATHEMATICAL DOUBLE-STRUCK CAPITAL O"]⟩,
  ⟨0x1D54A, ["MATHEMATICAL DOUBLE-STRUCK CAPITAL SbTbUbVbWbXbY"]⟩,
  ⟨0x1D552, ["MATHEMATICAL DOUBLE-STRUCK SMALL AbBbCbDbEbFbGbHbIbJbKbLbMbNbObPbQbRbSbTbUbVbWbXbYbZ",
     "vBOLD FRAKTUR CAPITAL AbBbCbDbEbFbGbHbIbJbKbLbMbNbObPbQbRbSbTbUbVbWbXbYbZjSMALL AbBbCbDbEbFb",
     "GbHbIbJbKbLbMbNbObPbQbRbSbTbUbVbWbXbYbZuSANS-SERIF CAPITAL AbBbCbDbEbFbGbHbIbJbKbLbMbNbObPbQ",
     "bRbSbTbUbVbWbXbYbZjSMALL AbBbCbDbEbFbGbHbIbJbKbLbMbNbObPbQbRbSbTbUbVbWbXbYbZhBOLD CAPITAL Ab",
     "BbCbDbEbFbGbHbIbJbKbLbMbNbObPbQbRbSbTbUbVbWbXbYbZjSMALL AbBbCbDbEbFbGbHbIbJbKbLbMbNbObPbQbRb",
     "SbTbUbVbWbXbYbZmITALIC CAPITAL AbBbCbDbEbFbGbHbIbJbKbLbMbNbObPbQbRbSbTbUbVbWbXbYbZjSMALL AbB",
     "bCbDbEbFbGbHbIbJbKbLbMbNbObPbQbRbSbTbUbVbWbXbYbZoBOLD ITALIC CAPITAL AbBbCbDbEbFbGbHbIbJbKbL",
     "bMbNbObPbQbRbSbTbUbVbWbXbYbZjSMALL AbBbCbDbEbFbGbHbIbJbKbLbMbNbObPbQbRbSbTbUbVbWbXbYbZzfMONO",
     "SPACE CAPITAL AbBbCbDbEbFbGbHbIbJbKbLbMbNbObPbQbRbSbTbUbVbWbXbYbZjSMALL AbBbCbDbEbFbGbHbIbJb",
     "KbLbMbNbObPbQbRbSbTbUbVbWbXbYbZrITALIC SMALL DOTLESS IbJ"]⟩,
  ⟨0x1D6A8, ["MATHEMATICAL BOLD CAPITAL ALPHAfBETAeGAMMAfDELTAfEPSILONhZETAeETAdTHETAfIOTAeKAPPAfL",
     "AMDAfMUcNUcXIcOMICRONhPIcRHOdTHETA SYMBOLmSIGMAfTAUdUPSILONhPHIdCHIdPSIdOMEGAnNABLAfSMALL AL",
     "PHAfBETAeGAMMAfDELTAfEPSILONhZETAeETAdTHETAfIOTAeKAPPAfLAMDAfMUcNUcXIcOMICRONhPIcRHOdFINAL S",
     "IGMAlSIGMAfTAUdUPSILONhPHIdCHIdPSIdOMEGAlPARTIAL DIFFERENTIALuEPSILON SYMBOLoTHETA SYMBOLmKA",
     "PPA SYMBOLmPHI SYMBOLkRHO SYMBOLkPI SYMBOLoITALIC CAPITAL ALPHAfBETAeGAMMAfDELTAfEPSILONhZET",
     "AeETAdTHETAfIOTAeKAPPAfLAMDAfMUcNUcXIcOMICRONhPIcRHOdTHETA SYMBOLmSIGMAfTAUdUPSILONhPHIdCHId",
     "PSIdOMEGAnNABLAfSMALL ALPHAfBETAeGAMMAfDELTAfEPSILONhZETAeETAdTHETAfIOTAeKAPPAfLAMDAfMUcNUcX",
     "IcOMICRONhPIcRHOdFINAL SIGMAlSIGMAfTAUdUPSILONhPHIdCHIdPSIdOMEGAlPARTIAL DIFFERENTIALuEPSILO",
     "N SYMBOLoTHETA SYMBOLmKAPPA SYMBOLmPHI SYMBOLkRHO SYMBOLkPI SYMBOLqBOLD ITALIC CAPITAL ALPHA",
     "fBETAeGAMMAfDELTAfEPSILONhZETAeETAdTHETAfIOTAeKAPPAfLAMDAfMUcNUcXIcOMICRONhPIcRHOdTHETA SYMB",
     "OLmSIGMAfTAUdUPSILONhPHIdCHIdPSIdOMEGAnNABLAfSMALL ALPHAfBETAeGAMMAfDELTAfEPSILONhZETAeETAdT",
     "HETAfIOTAeKAPPAfLAMDAfMUcNUcXIcOMICRONhPIcRHOdFINAL SIGMAlSIGMAfTAUdUPSILONhPHIdCHIdPSIdOMEG",
     "AlPARTIAL DIFFERENTIALuEPSILON SYMBOLoTHETA SYMBOLmKAPPA SYMBOLmPHI SYMBOLkRHO SYMBOLkPI SYM",
     "BOLvSANS-SERIF BOLD CAPITAL ALPHAfBETAeGAMMAfDELTAfEPSILONhZETAeETAdTHETAfIOTAeKAPPAfLAMDAfM",
     "UcNUcXIcOMICRONhPIcRHOdTHETA SYMBOLmSIGMAfTAUdUPSILONhPHIdCHIdPSIdOMEGAnNABLAfSMALL ALPHAfBE",
     "TAeGAMMAfDELTAfEPSILONhZETAeETAdTHETAfIOTAeKAPPAfLAMDAfMUcNUcXIcOMICRONhPIcRHOdFINAL SIGMAlS",
     "IGMAfTAUdUPSILONhPHIdCHIdPSIdOMEGAlPARTIAL DIFFERENTIALuEPSILON SYMBOLoTHETA SYMBOLmKAPPA SY",
     "MBOLmPHI SYMBOLkRHO SYMBOLkPI SYMBOLjITALIC CAPITAL ALPHAfBETAeGAMMAfDELTAfEPSILONhZETAeETAd",
     "THETAfIOTAeKAPPAfLAMDAfMUcNUcXIcOMICRONhPIcRHOdTHETA SYMBOLmSIGMAfTAUdUPSILONhPHIdCHIdPSIdOM",
     "EGAnNABLAfSMALL ALPHAfBETAeGAMMAfDELTAfEPSILONhZETAeETAdTHETAfIOTAeKAPPAfLAMDAfMUcNUcXIcOMIC",
     "RONhPIcRHOdFINAL SIGMAlSIGMAfTAUdUPSILONhPHIdCHIdPSIdOMEGAlPARTIAL DIFFERENTIALuEPSILON SYMB",
     "OLoTHETA SYMBOLmKAPPA SYMBOLmPHI SYMBOLkRHO SYMBOLkPI SYMBOLzhBOLD CAPITAL DIGAMMApSMALL DIG",
     "AMMA"]⟩,
  ⟨0x1D7CE, ["MATHEMATICAL BOLD DIGIT ZEROeONEdTWOcHREEfFOURdIVEeSIXcEVENfEIGHTfNINEpDOUBLE-STRUCK",
     " DIGIT ZEROeONEdTWOcHREEfFOURdIVEeSIXcEVENfEIGHTfNINEySANS-SERIF DIGIT ZEROeONEdTWOcHREEfFOU",
     "RdIVEeSIXcEVENfEIGHTfNINEkBOLD DIGIT ZEROeONEdTWOcHREEfFOURdIVEeSIXcEVENfEIGHTfNINEzbMONOSPA",
     "CE DIGIT ZEROeONEdTWOcHREEfFOURdIVEeSIXcEVENfEIGHTfNINEziSIGNWRITING HAND-FIST INDEXkCIRCLE ",
     "INDEXlUP INDEXjOVAL INDEXkHINGE INDEXlANGLE INDEXlFIST INDEX BENTpCIRCLE INDEX BENTrFIST THU",
     "MB UNDER INDEX BENTwINDEX RAISED KNUCKLEoCUPPEDgHINGEDa LOWvCIRCLE INDEX HINGEsFIST INDEX MI",
     "DDLErCIRCLE INDEX MIDDLEtFIST INDEX MIDDLE BENTeRAISED KNUCKLESpHINGEDnUP MIDDLE HINGEDqHING",
     "ED MIDDLE UPqMIDDLE CONJOINEDa INDEX BENTkMIDDLE BENTlCUPPEDgHINGEDpROSSEDzCIRCLE INDEX MIDD",
     "LE CROSSEDzcFIST MIDDLE BENT OVER INDEXwINDEX BENT OVER MIDDLEqMIDDLE THUMBxCIRCLE INDEX MID",
     "DLE THUMBzFIST INDEX MIDDLE STRAIGHT THUMB BENTtBENT THUMB STRAIGHTtTHUMB BENTkHINGED SPREAD",
     " THUMB SIDEzgUP MIDDLE HINGED THUMB SIDEeCONJOINEDzhHINGED MIDDLE UP THUMB SIDEzcMIDDLE UP S",
     "PREAD THUMB FORWARDxTHUMB CUPPEDfIRCLEDhHOOKEDfINGEDzTHUMB BETWEEN INDEX MIDDLE STRAIGHTzkIN",
     "DEX MIDDLE CONJOINED THUMB SIDEa CONJOINEDjBENTznMIDDLE THUMB HOOKED INDEX UPzdINDEX THUMB H",
     "OOKED MIDDLE UPwMIDDLE CONJOINED HINGED THUMB SIDEzbROSSED THUMB SIDErONJOINED THUMB FORWARD",
     "nCUPPED THUMB FORWARDzsMIDDLE THUMB CUPPED INDEX UPzdINDEX THUMB CUPPED MIDDLE UPzdMIDDLE TH",
     "UMB CIRCLED INDEX UPcHINGEDziINDEX THUMB ANGLED OUT MIDDLE UPnIN MIDDLE UPtCIRCLED MIDDLE UP",
     "xMIDDLE THUMB CONJOINED HINGEDqANGLED OUTfDzMIDDLE THUMB ANGLED OUT INDEX UPcCROSSEDrINDEX U",
     "PzdINDEX THUMB HOOKED MIDDLE HINGEDzlLAT FOUR FINGERSa BENTeHINGEDgCONJOINEDa SPLITziCLAW FO",
     "UR FINGERS CONJOINEDzcFIST FOUR FINGERS CONJOINED BENTzhHINGE FOUR FINGERS CONJOINEDzdFLAT F",
     "IVE FINGERS SPREADtHEEL FIVE FINGERS SPREADyFIVE FINGERS SPREAD FOUR BENTzeHEEL FIVE FINGERS",
     " SPREAD FOUR BENTzjFIVE FINGERS SPREAD BENTyHEEL FIVE FINGERS SPREAD BENTzeFIVE FINGERS SPRE",
     "AD THUMB FORWARDznCUP FIVE FINGERS SPREADa OPENzdHINGE FIVE FINGERS SPREAD OPENzfOVAL FIVE F",
     "INGERS SPREADyFLAT FIVE FINGERS SPREAD HINGEDa THUMB SIDEkNO THUMBzmTa BETWEEN PALM FACINGSu",
     "HEELeTHUMB SIDEkHEEL THUMB SIDEpTHUMB BENTeFORWARDnSPLIT INDEX THUMB SIDEqCENTREa THUMB SIDE",
     "a BENTwLITTLErCLAWa THUMB SIDEkNO THUMBiTHUMB FORWARDsHOOK CURLICUEkKeCUP OPENgPa OPEN THUMB",
     " SIDEpTHUMB SIDEkOPEN NO THUMBnNO THUMBiOPEN THUMB FORWARDsTHUMB FORWARDpRLICUE OPENgEhIRCLE",
     "gOVALa THUMB SIDEkNO THUMBiTHUMB FORWARDsHINGE OPENa THUMB FORWARDuEa SMALLfOPEN THUMB SIDEp",
     "THUMB SIDEkOPEN NO THUMBnNO THUMBiTHUMB SIDE TOUCHING INDEXtBETWEEN MIDDLE RINGzgANGLEfFIST ",
     "INDEX MIDDLE RINGwCIRCLE INDEX MIDDLE RINGyHINGE INDEX MIDDLE RINGxANGLE INDEX MIDDLE RINGxH",
     "INGE LITTLEmFIST INDEX MIDDLE RING BENTeCONJOINEDzhHINGE INDEX MIDDLE RING CONJOINEDziFIST L",
     "ITTLE DOWNa RIPPLE STRAIGHTiCURVEDnOTHERS CIRCLEDtUPjTHUMB UNDER LITTLE UPzbCIRCLE LITTLE UP",
     "qOVAL LITTLE UPoANGLE LITTLE UPpFIST LITTLE RAISED KNUCKLEoBENTeTOUCHES THUMBmHUMBrHINGE LIT",
     "TLE THUMBsFIST LITTLE INDEX THUMBxHINGE LITTLE INDEX THUMByANGLE LITTLE INDEX THUMB INDEX TH",
     "UMB OUTfBzlFIST LITTLE INDEXrCIRCLE LITTLE INDEXtHINGE LITTLE INDEXsANGLE LITTLE INDEXsFIST ",
     "INDEX MIDDLE LITTLEyCIRCLE INDEX MIDDLE LITTLEzbHINGE INDEX MIDDLE LITTLEtRINGkANGLE INDEX M",
     "IDDLE LITTLEzFIST INDEX MIDDLE CROSS LITTLEzfCIRCLE INDEX MIDDLE CROSS LITTLEzhFIST RING DOW",
     "NoHINGE RING DOWN INDEX THUMB HOOK MIDDLEzoANGLE RING DOWN MIDDLE THUMB INDEX CROSSzpFIST RI",
     "NG UPcRAISED KNUCKLEoLITTLEqCIRCLE RING LITTLEsOVAL RING LITTLEqANGLE RING LITTLErFIST RING ",
     "MIDDLEa CONJOINEDjRAISED KNUCKLESwINDEXfTHUMBpHOOK RING THUMBpFIST INDEX RING LITTLEwCIRCLE ",
     "INDEX RING LITTLExURLICUE INDEX RING LITTLE ONzeHOOK INDEX RING LITTLE OUTdINcUNDERzdCUP IND",
     "EX RING LITTLEvHINGE INDEX RING LITTLExANGLE INDEX RING LITTLE OUTfExFIST MIDDLE DOWNqHINGE ",
     "MIDDLEmFIST MIDDLE UPoCIRCLE MIDDLE UPqFIST MIDDLE RAISED KNUCKLEoUP THUMB SIDEzHOOK MIDDLE ",
     "THUMBrFIST MIDDLE THUMB LITTLEmLITTLEgRING LITTLExCIRCLE MIDDLE RING LITTLEyURLICUE MIDDLE R",
     "ING LITTLE ONzdP MIDDLE RING LITTLEwHINGE MIDDLE RING LITTLEyANGLE MIDDLE RING LITTLE OUTdIN",
     "eEyCIRCLE MIDDLE RING LITTLE BENTzeLAW MIDDLE RING LITTLE CONJOINEDa SIDEznHOOK MIDDLE RING ",
     "LITTLE CONJOINED OUTdINeDzhINGE INDEX HINGEDsFIST INDEX THUMB SIDEvHINGE INDEX THUMB SIDEwFI",
     "ST INDEX THUMB SIDE THUMB DIAGONALiCONJOINEDjBENTkINDEX BENTkBOTH BENTjINDEX HINGEqFORWARD I",
     "NDEX STRAIGHTiBENTsHOOKeCURLICUEfVE THUMB INSIDEzkCLAW INDEX THUMB CURVE THUMB INSIDEzkFIST ",
     "INDEX THUMB CURVE THUMB UNDERqIRCLExCUP INDEX THUMBa OPENuHINGE INDEX THUMB OPENeLARGEhBa SM",
     "ALLxANGLE INDEX THUMB OUTdINeBrFIST THUMBa HEELeSIDE DIAGONALiCONJOINEDjBENTjFORWARDhBETWEEN",
     " INDEX MIDDLEmMIDDLE RINGlRING LITTLEtUNDER TWO FINGERSrOVER TWO FINGERSqUNDER THREE FINGERS",
     "nFOUR FINGERSsOVER FOUR RAISED KNUCKLESziTa HEELoTOUCH SINGLEgMULTIPLEiBETWEENnGRASP SINGLEg",
     "MULTIPLEiBETWEENnSTRIKE SINGLEgMULTIPLEiBETWEENoBRUSH SINGLEgMULTIPLEiBETWEENnRUB SINGLEgMUL",
     "TIPLEiBETWEENlSURFACE SYMBOLShBETWEENoQUEEZE LARGE SINGLEmSMALL SINGLEmLARGE MULTIPLEoSMALL ",
     "MULTIPLEnEQUENTIALsFLICK LARGE SINGLEmSMALL SINGLEmLARGE MULTIPLEoSMALL MULTIPLEnEQUENTIALqS",
     "QUEEZE FLICK ALTERNATINGzMOVEMENT-HINGE UP DOWN LARGEfSMALLkSEQUENTIALnDOWN SEQUENTIALpUP DO",
     "WN ALTERNATING LARGEfSMALLzSIDE TO SIDE SCISSORSzcWALLPLANE FINGER CONTACTyFLOORPLANE FINGER",
     " CONTACTzWALLPLANE SINGLE STRAIGHT SMALLfMEDIUMgLARGEaSTqWRIST FLEXrDOUBLE STRAIGHTiWRIST FL",
     "EXkALTERNATINGa WRIST FLEXzeCROSSfTRIPLE STRAIGHT MOVEMENTrWRIST FLEXkALTERNATINGa WRIST FLE",
     "XzeBEND SMALLfMEDIUMgLARGEkCORNER SMALLfMEDIUMgLARGEfROTATIONoHECK SMALLfMEDIUMgLARGElBOX SM",
     "ALLfMEDIUMgLARGEjZIGZAG SMALLfMEDIUMgLARGEmPEAKS SMALLfMEDIUMgLARGEzfTRAVEL-WALLPLANE ROTATI",
     "ON-WALLPLANE SINGLEgDOUBLEgALTERNATINGvFLOORPLANE SINGLEgDOUBLEgALTERNATINGzgSHAKINGhARM SPI",
     "RAL SINGLEgDOUBLEgTRIPLEzjMOVEMENT-DIAGONAL AWAY SMALLfMEDIUMgLARGEaSTmTOWARDS SMALLfMEDIUMg",
     "LARGEaSTpBETWEEN AWAY SMALLfMEDIUMgLARGEaSTmTOWARDS SMALLfMEDIUMgLARGEaSTzhFLOORPLANE SINGLE",
     " STRAIGHT SMALLfMEDIUMgLARGEaSTqWRIST FLEXrDOUBLE STRAIGHTiWRIST FLEXkALTERNATINGa WRIST FLE",
     "XzeCROSSfTRIPLE STRAIGHT MOVEMENTrWRIST FLEXkALTERNATING MOVEMENTiWRIST FLEXzeBENDeCORNER SM",
     "ALLfMEDIUMgLARGElHECKfBOX SMALLfMEDIUMgLARGEjZIGZAG SMALLfMEDIUMgLARGEmPEAKS SMALLfMEDIUMgLA",
     "RGEzgTRAVEL-FLOORPLANE ROTATION-FLOORPLANE SINGLEgDOUBLEgALTERNATINGwWALLPLANE SINGLEgDOUBLE",
     "gALTERNATINGzfSHAKINGzMOVEMENT-WALLPLANE CURVE QUARTER SMALLfMEDIUMgLARGEaSTpHALF-CIRCLE SMA",
     "LLfMEDIUMgLARGEaSTtTHREE-QUARTER CIRCLE SMALLfMEDIUMziHUMP SMALLfMEDIUMgLARGEkLOOP SMALLfMED",
     "IUMgLARGEfSMALL DOUBLErWAVE CURVE DOUBLE SMALLfMEDIUMgLARGEmTRIPLE SMALLfMEDIUMgLARGExCURVE ",
     "THEN STRAIGHToD CROSS SMALLfMEDIUMznROTATION-WALLPLANE SINGLEgDOUBLEgALTERNATEzdMOVEMENT-WAL",
     "LPLANE SHAKINGhCURVE HITTING FRONT WALLyHUMP HITTING FRONT WALLxLOOP HITTING FRONT WALLxWAVE",
     " HITTING FRONT WALLzrROTATION-WALLPLANE SINGLE HITTING FRONT WALLzDOUBLE HITTING FRONT WALLz",
     "ALTERNATING HITTING FRONT WALLzyMOVEMENT-WALLPLANE CURVE HITTING CHESTtHUMP HITTING CHESTsLO",
     "OP HITTING CHESTsWAVE HITTING CHESTzmROTATION-WALLPLANE SINGLE HITTING CHESTuDOUBLE HITTING ",
     "CHESTuALTERNATING HITTING CHESTztMOVEMENT-WALLPLANE WAVE DIAGONAL PATH SMALLfMEDIUMgLARGEzjF",
     "LOORPLANE CURVE HITTING CEILING SMALLfLARGEzcHUMP HITTING CEILING SMALL DOUBLEmLARGE DOUBLEm",
     "SMALL TRIPLEmLARGE TRIPLEziLOOP HITTING CEILING SMALL SINGLEmLARGE SINGLEmSMALL DOUBLEmLARGE",
     " DOUBLEziWAVE HITTING CEILING SMALLfLARGEzvROTATION-FLOORPLANE SINGLE HITTING CEILINGwDOUBLE",
     " HITTING CEILINGwALTERNATING HITTING CEILINGzwMOVEMENT-FLOORPLANE CURVE HITTING FLOOR SMALLf",
     "LARGEzHUMP HITTING FLOOR SMALL DOUBLEmLARGE DOUBLEmTRIPLE SMALL TRIPLEmLARGE TRIPLEznLOOP HI",
     "TTING FLOOR SMALL SINGLEmLARGE SINGLEmSMALL DOUBLEmLARGE DOUBLEzgWAVE HITTING FLOOR SMALLfLA",
     "RGEztROTATION-FLOORPLANE SINGLE HITTING FLOORuDOUBLE HITTING FLOORuALTERNATING HITTING FLOOR",
     "zuMOVEMENT-FLOORPLANE CURVE SMALLfMEDIUMgLARGEaSThCOMBINEDoHUMP SMALLkLOOP SMALLkWAVE SNAKEe",
     "MALLfLARGEzfROTATION-FLOORPLANE SINGLEgDOUBLEgALTERNATINGzgMOVEMENT-FLOORPLANE SHAKING PARAL",
     "LELzcWALLPLANE ARM CIRCLE SMALL SINGLEmMEDIUM SINGLEnSMALL DOUBLEmMEDIUM DOUBLEzjFLOORPLANE ",
     "ARM CIRCLE HITTING WALL SMALL SINGLEmMEDIUM SINGLEnLARGE SINGLEmSMALL DOUBLEmMEDIUM DOUBLEnL",
     "ARGE DOUBLEzwWALLPLANE WRIST CIRCLE FRONT SINGLEgDOUBLEzkFLOORPLANE WRIST CIRCLE HITTING WAL",
     "L SINGLEgDOUBLEzsWALLPLANE FINGER CIRCLES SINGLEgDOUBLEzgFLOORPLANE FINGER CIRCLES HITTING W",
     "ALL SINGLEgDOUBLEzzeDYNAMIC ARROWHEAD SMALLfLARGEpFASTeSLOWeTENSEfRELAXEDhSIMULTANEOUSa ALTE",
     "RNATINGyEVERY OTHER TIMEqGRADUALpHEADa RIMdMOVEMENT-WALLPLANE STRAIGHTiTILToFLOORPLANE STRAI",
     "GHTtWALLPLANE CURVEpFLOORPLANE CURVEr CIRCLEuFACE DIRECTION POSITION NOSE FORWARD TILTINGpUP",
     " OR DOWNa TILTINGzwEYEBROWS STRAIGHT UPcNEUTRALhDOWNwDREAMY EYEBROWS NEUTRAL DOWNmDOWN NEUTR",
     "ALmUP NEUTRALkNEUTRAL UPzbFOREHEAD NEUTRALhCONTACThWRINKLEDrEYES OPENeSQUEEZEDiCLOSEDi BLINK",
     " SINGLEgMULTIPLEpS HALF OPENjWIDE OPENjHALF CLOSEDlWIDENING MOVEMENTt WINKfLASHES UPcDOWNeFL",
     "UTTERINGrGAZE-WALLPLANE STRAIGHTa DOUBLEgALTERNATINGzfFLOORPLANE STRAIGHTa DOUBLEgALTERNATIN",
     "GzgWALLPLANE CURVEDqFLOORPLANE CURVEDrWALLPLANE CIRCLINGzbCHEEKS PUFFEDgNEUTRALhSUCKEDnTENSE",
     " CHEEKS HIGHeMIDDLEgLOWqEARSeNOSE NEUTRALhCONTACThWRINKLEShIGGLESmAIR BLOWING OUTlSUCKING IN",
     "kBLOW SMALL ROTATIONSuSUCK SMALL ROTATIONSyBREATH INHALEgEXHALEnMOUTH CLOSED NEUTRALhFORWARD",
     "hCONTACToSMILEa WRINKLEDiOPENkFROWNa WRINKLEDiOPENkOPEN CIRCLEgFORWARDhWRINKLEDiOVALa WRINKL",
     "EDiYAWNjRECTANGLEa WRINKLEDiYAWNtKISSa FORWARDhWRINKLEDnTENSEa FORWARDhSUCKEDsLIPS PRESSED T",
     "OGETHERs LOWER OVER UPPERqUPPER OVER LOWERuMOUTH CORNERShWRINKLES SINGLEgDOUBLEvTONGUE STICK",
     "ING OUT FARqLICKING LIPSmTIP BETWEEN LIPSmTOUCHING INSIDE MOUTHzINSIDE MOUTH RELAXEDuMOVES A",
     "GAINST CHEEKtCENTRE STICKING OUTmINSIDE MOUTHzEETHa MOVEMENTiON TONGUEa MOVEMENTpLIPSa MOVEM",
     "ENTqBITE LIPSpMOVEMENT-WALLPLANE JAWnFLOORPLANE JAWxNECKeHAIReEXCITEMENTkSHOULDER HIP SPINEf",
     "POSITIONSwWALLPLANE SHOULDER HIP MOVEzcFLOORPLANE SHOULDER HIP MOVEzdSHOULDER TILTING FROM W",
     "AISTzcTORSO-WALLPLANE STRAIGHT STRETCHqCURVED BENDvFLOORPLANE TWISTINGzUPPER BODY TILTING FR",
     "OM HIP JOINTSzjLIMB COMBINATIONlLENGTH-1b2b3b4b5b6b7nFINGERgLOCATION-WALLPLANE SPACEpFLOORPL",
     "ANE SPACEr HEIGHTgWIDTHfDEPTHfHEAD NECKjTORSOfLIMBS DIGITSvCOMMAfFULL STOPjSEMICOLONjCOLONfP",
     "ARENTHESIS"]⟩,
  ⟨0x1DA9B, ["SIGNWRITING FILL MODIFIER-2b3b4b5b6"]⟩,
  ⟨0x1DAA1, ["SIGNWRITING ROTATION MODIFIER-2b3b4b5b6b7b8b9b10b1b2b3b4b5b6"]⟩,
  ⟨0x1DF00, ["LATIN SMALL LETTER FENG DIGRAPH WITH TRILLxREVERSED SCRIPT GzfLETTER SMALL CAPITAL T",
     "URNED GzeSMALL LETTER REVERSED KxLETTER SMALL CAPITAL L WITH BELTzhSMALL LETTER LEZH WITH RE",
     "TROFLEX HOOKyTURNED Y WITH BELTsREVERSED ENGmTURNED R WITH LONG LEG AND RETROFLEX HOOKzp WIT",
     "H HOOK AND RETROFLEX HOOKzsLETTER RETROFLEX CLICK WITH RETROFLEX HOOKzrSMALL LETTER ESH WITH",
     " DOUBLE BARa AND CURLzdTURNED T WITH CURLzgLETTER INVERTED GLOTTAL STOP WITH CURLzgSTRETCHED",
     " C WITH CURLuMALL CAPITAL TURNED KzeSMALL LETTER L WITH FISHHOOKpDEZH DIGRAPH WITH PALATAL H",
     "OOKzfL WITH BELT AND PALATAL HOOKzdENG WITH PALATAL HOOKvTURNED R WITH PALATAL HOOKzbR WITH ",
     "FISHHOOK AND PALATAL HOOKzhTESH DIGRAPH WITH PALATAL HOOKzfEZH WITH PALATAL HOOKvDEZH DIGRAP",
     "H WITH RETROFLEX HOOKzhI WITH STROKE AND RETROFLEX HOOKzhO WITH RETROFLEX HOOKvTESH DIGRAPH ",
     "WITH RETROFLEX HOOKzhC WITH RETROFLEX HOOKvS WITH CURL"]⟩,
  ⟨0x1E000, ["COMBINING GLAGOLITIC LETTER AZUdBUKYeVEDEeGLAGOLIhDOBROfYESTUfZHIVETE"]⟩,
  ⟨0x1E008, ["COMBINING GLAGOLITIC LETTER ZEMLJAgIZHEdNITIAL IZHEmIbDJERVIgKAKOeLJUDIJEhMYSLITEhNA",
     "SHIfONUdPOKOJIgRITSIfSLOVOfTVRIDOgUKUdFRITUfHERU"]⟩,
  ⟨0x1E01B, ["COMBINING GLAGOLITIC LETTER SHTAeTSIdCHRIVIgSHAdYERUbIdATI"]⟩,
  ⟨0x1E023, ["COMBINING GLAGOLITIC LETTER YUcSMALL YUS"]⟩,
  ⟨0x1E026, ["COMBINING GLAGOLITIC LETTER YOcIOTATED SMALL YUSrBIG YUShIOTATED BIG YUSpFITA"]⟩,
  ⟨0x1E100, ["NYIAKENG PUACHUE HMONG LETTER MAcTSAdNTAdTAcHAcNAcXAcNKAdCAcLAcSAcZAcNCAcTSAeKAcDAcN",
     "YAcRAdVAcNTXAeTXAdFAcRAcQAcYAcNQAdPAcXYAdNPAdDLAdNPLAeHAHdMLAdPLAdGAcRRAdAaAcIbUbOaOcEaEcW"]⟩,
  ⟨0x1E130, ["NYIAKENG PUACHUE HMONG TONE-BbMbJbVbSbGbDgSIGN FOR PERSONgTHINGfLOCATIONiANIMALgINVE",
     "RTEBRATEqXW XWjYLLABLE LENGTHENER"]⟩,
  ⟨0x1E140, ["NYIAKENG PUACHUE HMONG DIGIT ZEROeONEdTWOcHREEfFOURdIVEeSIXcEVENfEIGHTfNINE"]⟩,
  ⟨0x1E14E, ["NYIAKENG PUACHUE HMONG LOGOGRAM NYAJnCIRCLED CA"]⟩,
  ⟨0x1E290, ["TOTO LETTER PAcBAcTAcDAcKAcGAcMAcNAbGAdSAcCHAdYAcWAcJAcHAcRAcLAcIbBREATHY IjIUcBREAT",
     "HY IUkUbEbBREATHY EjEOcBREATHY EOkObAEcBREATHY AEkAiSIGN RISING TONE"]⟩,
  ⟨0x1E2C0, ["WANCHO LETTER AAcAbBAcCAcDAcGAcYAcPHAdLAcNAcPAcTAbHAdFAcSAbHAdJAcZAcWAcVAcKAcObAUcRA",
     "cMAcKHAdHAcEbIbNGAdUbLLHAeTSAcRAdONGdAANGdNGdINGdONcENcAANdNYAdUENdYIHkTONE TUPaNIfKOIaNIkDI",
     "GIT ZEROeONEdTWOcHREEfFOURdIVEeSIXcEVENfEIGHTfNINE"]⟩,
  ⟨0x1E2FF, ["WANCHO NGUN SIGN"]⟩,
  ⟨0x1E7E0, ["ETHIOPIC SYLLABLE HHYAbUbIbAAcEEcEbO"]⟩,
  ⟨0x1E7E8, ["ETHIOPIC SYLLABLE GURAGE HHWAlHHWIbEEcE"]⟩,
  ⟨0x1E7ED, ["ETHIOPIC SYLLABLE GURAGE MWIbEE"]⟩,
  ⟨0x1E7F0, ["ETHIOPIC SYLLABLE GURAGE QWIbEEcEdBWIbEEeKWIbEEcEdGWIbEEcEdFWIbEEePWIbEE"]⟩,
  ⟨0x1E800, ["MENDE KIKAKUI SYLLABLE M001 KIe2 KAe3 KUf65 KEEg95 KEf76 KOOg48 KOg179 KUAh004 WIe5 ",
     "WAe6 WUg126 WEEg18 WEe4 WOOh045 WOg194 WUIg43 WEIh061 WVIg49 WVAh139 WVEh007 MINf8 MANf9 MUN",
     "g59 MENg94 MONh154 MUANh89 MUENi010 BIe1 BAe2 BUg150 BEEh097 BEg103 BOOg38 BOg013 Id4 Ad5 Uf",
     "163 EEf00 Ee65 OOf47 Oe37 EIe1 INe5 INf95 ANf78 ENg019 SIf20 SAe1 SUg162 SEEg16 SEf36 SOOh07",
     "9 SOg196 SIAh025 LIe6 LAe7 LUf84 LEEg73 LEf54 LOOh153 LOf10 LONG LEl016 DIe7 DAe8 DUf89 DEEh",
     "180 DOOf1 DOg022 TIe3 TAe4 TUf91 TEEg55 TEg104 TOOh069 TOf28 JIe9 JAf30 JUg157 JEEg13 JEf60 ",
     "JOOh063 JOg175 LONG JOl031 YIe2 YAe3 YUg109 YEEh080 YEg141 YOOg21 YOg034 FIe5 FAe6 FUf78 FEE",
     "f5 FEg133 FOOh088 FOg197 FUAg01 FANh037 NINf8 NANf9 NUNh117 NENg69 NONg76 HIg041 HAg186 HUg0",
     "40 HEEg96 HEf42 HOOh140 HOg083 HEEIi128 HOOUi053 HINh130 HANh087 HUNg52 HENh193 HONh046 HUAN",
     "h90 NGGIh43 NGGAh82 NGGUi115 NGGEEi46 NGGEh56 NGGOOi20 NGGOh59 NGGAAi27 NGGUAj086 LONG NGGEn",
     "106 LONG NGGOOn83 LONG NGGOm55 GIf11 GAf68 GUf90 GEEg66 GUEIg7 GUANh84 NGENi057 NGONi177 NGU",
     "ANj068 PIf99 PAf50 PUf81 PEEg51 PEg102 POOh066 POg145 MBIh062 MBAh122 MBUh047 MBEEi188 MBEEi",
     "072 MBEh172 MBOOg4 MBOg87 MBUUh61 LONG MBEl05 LONG MBOOm42 LONG MBOl32 KPIh092 KPAg74 KPUg44",
     " KPEEi108 KPEg12 KPOOh58 KPOg24 GBIh056 GBAh148 GBUh093 GBEEi107 GBEh071 GBOOg0 GBOh171 RAf2",
     "3 NDIf9 NDAf5 NDUg91 NDEEh19 NDEh067 NDOOg4 NDOh152 NJAg92 NJUg49 NJEEh34 NJOOh82 VIe5 VAf51",
     " VUf73 VEEh085 VEg144 VOOh077 VOg164 NYINi058 NYANi170 NYUNi098 NYENh60 NYON"]⟩,
  ⟨0x1E8C7, ["MENDE KIKAKUI DIGIT ONEdTWOcHREEfFOURdIVEeSIXcEVENfEIGHTfNINEkCOMBINING NUMBER TEENS",
     "dNSeHUNDREDSiTHOUSANDSiEN THOUSANDSnHUNDRED THOUSANDSrMILLIONS"]⟩,
  ⟨0x1E900, ["ADLAM CAPITAL LETTER ALIFeDAALIfLAAMeMIIMeBAcSINNYIIYHEkPEcBHEdRAcEbFAcIbObDHAdYHEdW",
     "AWdNUNdKAFdYAcUbJIIMeCHIdHAcQAAFeGAcNYAdTUcNHAdVAcKHAdGBEdZALdKPOdSHAsSMALL LETTER ALIFeDAAL",
     "IfLAAMeMIIMeBAcSINNYIIYHEkPEcBHEdRAcEbFAcIbObDHAdYHEdWAWdNUNdKAFdYAcUbJIIMeCHIdHAcQAAFeGAcNY",
     "AdTUcNHAdVAcKHAdGBEdZALdKPOdSHAqALIF LENGTHENERpVOWEL LENGTHENERqGEMINATION MARKpHAMZAfCONSO",
     "NANT MODIFIERsGEMINATE CONSONANT MODIFIERzcNUKTAeASALIZATION MARK"]⟩,
  ⟨0x1E950, ["ADLAM DIGIT ZEROeONEdTWOcHREEfFOURdIVEeSIXcEVENfEIGHTfNINE"]⟩,
  ⟨0x1E95E, ["ADLAM INITIAL EXCLAMATION MARKqQUESTION MARK"]⟩,
  ⟨0x1EC71, ["INDIC SIYAQ NUMBER ONEdTWOcHREEfFOURdIVEeSIXcEVENfEIGHTfNINEeTENcWENTYfHIRTYgFORTYeI",
     "FTYfSIXTYeEVENTYhEIGHTYgNINETYgONE HUNDREDlTWO HUNDREDkHREE HUNDREDnFOUR HUNDREDlIVE HUNDRED",
     "mSIX HUNDREDkEVEN HUNDREDnEIGHT HUNDREDnNINE HUNDREDmONE THOUSANDmTWO THOUSANDlHREE THOUSAND",
     "oFOUR THOUSANDmIVE THOUSANDnSIX THOUSANDlEVEN THOUSANDoEIGHT THOUSANDoNINE THOUSANDnTEN THOU",
     "SANDlWENTY THOUSANDoHIRTY THOUSANDpFORTY THOUSANDnIFTY THOUSANDoSIXTY THOUSANDnEVENTY THOUSA",
     "NDqEIGHTY THOUSANDpNINETY THOUSANDpLAKHaANnLAKH MARKjNUMBER KARORaANhPREFIXED ONEdTWOcHREEfF",
     "OURdIVEeSIXcEVENfEIGHTfNINEuPLACEHOLDERlFRACTION ONE QUARTERhHALFiTHREE QUARTERSxRUPEE MARKk",
     "NUMBER ALTERNATE ONEdTWOcEN THOUSANDzeALTERNATE LAKH MARK"]⟩,
  ⟨0x1ED01, ["OTTOMAN SIYAQ NUMBER ONEdTWOcHREEfFOURdIVEeSIXcEVENfEIGHTfNINEeTENcWENTYfHIRTYgFORTY",
     "eIFTYfSIXTYeEVENTYhEIGHTYgNINETYgONE HUNDREDlTWO HUNDREDkHREE HUNDREDnFOUR HUNDREDlIVE HUNDR",
     "EDmSIX HUNDREDkEVEN HUNDREDnEIGHT HUNDREDnNINE HUNDREDmONE THOUSANDmTWO THOUSANDlHREE THOUSA",
     "NDoFOUR THOUSANDmIVE THOUSANDnSIX THOUSANDlEVEN THOUSANDoEIGHT THOUSANDoNINE THOUSANDnTEN TH",
     "OUSANDlWENTY THOUSANDoHIRTY THOUSANDpFORTY THOUSANDnIFTY THOUSANDoSIXTY THOUSANDnEVENTY THOU",
     "SANDqEIGHTY THOUSANDpNINETY THOUSANDwMARRATANiALTERNATE NUMBER TWOcHREEfFOURdIVEeSIXcEVENfEI",
     "GHTfNINEeTENdFOUR HUNDREDmSIX HUNDREDlTWO THOUSANDlEN THOUSANDzeFRACTION ONE HALFeSIXTH"]⟩,
  ⟨0x1EE00, ["ARABIC MATHEMATICAL ALEFeBEHdJEEMeDAL"]⟩,
  ⟨0x1EE05, ["ARABIC MATHEMATICAL WAWdZAINeHAHdTAHdYEHdKAFdLAMdMEEMeNOONeSEENeAINdFEHdSADdQAFdREHd",
     "SHEENfTEHcHEHeKHAHeTHALeDADdZAHdGHAINfDOTLESS BEHdNOONeFEHdQAF"]⟩,
  ⟨0x1EE21, ["ARABIC MATHEMATICAL INITIAL BEHdJEEM"]⟩,
  ⟨0x1EE24, ["ARABIC MATHEMATICAL INITIAL HEH"]⟩,
  ⟨0x1EE27, ["ARABIC MATHEMATICAL INITIAL HAH"]⟩,
  ⟨0x1EE29, ["ARABIC MATHEMATICAL INITIAL YEHdKAFdLAMdMEEMeNOONeSEENeAINdFEHdSADdQAF"]⟩,
  ⟨0x1EE34, ["ARABIC MATHEMATICAL INITIAL SHEENfTEHcHEHeKHAH"]⟩,
  ⟨0x1EE39, ["ARABIC MATHEMATICAL INITIAL DAD"]⟩,
  ⟨0x1EE3B, ["ARABIC MATHEMATICAL INITIAL GHAIN"]⟩,
  ⟨0x1EE42, ["ARABIC MATHEMATICAL TAILED JEEM"]⟩,
  ⟨0x1EE47, ["ARABIC MATHEMATICAL TAILED HAH"]⟩,
  ⟨0x1EE49, ["ARABIC MATHEMATICAL TAILED YEH"]⟩,
  ⟨0x1EE4B, ["ARABIC MATHEMATICAL TAILED LAM"]⟩,
  ⟨0x1EE4D, ["ARABIC MATHEMATICAL TAILED NOONeSEENeAIN"]⟩,
  ⟨0x1EE51, ["ARABIC MATHEMATICAL TAILED SADdQAF"]⟩,
  ⟨0x1EE54, ["ARABIC MATHEMATICAL TAILED SHEEN"]⟩,
  ⟨0x1EE57, ["ARABIC MATHEMATICAL TAILED KHAH"]⟩,
  ⟨0x1EE59, ["ARABIC MATHEMATICAL TAILED DAD"]⟩,
  ⟨0x1EE5B, ["ARABIC MATHEMATICAL TAILED GHAIN"]⟩,
  ⟨0x1EE5D, ["ARABIC MATHEMATICAL TAILED DOTLESS NOON"]⟩,
  ⟨0x1EE5F, ["ARABIC MATHEMATICAL TAILED DOTLESS QAF"]⟩,
  ⟨0x1EE61, ["ARABIC MATHEMATICAL STRETCHED BEHdJEEM"]⟩,
  ⟨0x1EE64, ["ARABIC MATHEMATICAL STRETCHED HEH"]⟩,
  ⟨0x1EE67, ["ARABIC MATHEMATICAL STRETCHED HAHdTAHdYEHdKAF"]⟩,
  ⟨0x1EE6C, ["ARABIC MATHEMATICAL STRETCHED MEEMeNOONeSEENeAINdFEHdSADdQAF"]⟩,
  ⟨0x1EE74, ["ARABIC MATHEMATICAL STRETCHED SHEENfTEHcHEHeKHAH"]⟩,
  ⟨0x1EE79, ["ARABIC MATHEMATICAL STRETCHED DADdZAHdGHAINfDOTLESS BEH"]⟩,
  ⟨0x1EE7E, ["ARABIC MATHEMATICAL STRETCHED DOTLESS FEH"]⟩,
  ⟨0x1EE80, ["ARABIC MATHEMATICAL LOOPED ALEFeBEHdJEEMeDALdHEHdWAWdZAINeHAHdTAHdYEH"]⟩,
  ⟨0x1EE8B, ["ARABIC MATHEMATICAL LOOPED LAMdMEEMeNOONeSEENeAINdFEHdSADdQAFdREHdSHEENfTEHcHEHeKHAH",
     "eTHALeDADdZAHdGHAIN"]⟩,
  ⟨0x1EEA1, ["ARABIC MATHEMATICAL DOUBLE-STRUCK BEHdJEEMeDAL"]⟩,
  ⟨0x1EEA5, ["ARABIC MATHEMATICAL DOUBLE-STRUCK WAWdZAINeHAHdTAHdYEH"]⟩,
  ⟨0x1EEAB, ["ARABIC MATHEMATICAL DOUBLE-STRUCK LAMdMEEMeNOONeSEENeAINdFEHdSADdQAFdREHdSHEENfTEHcH",
     "EHeKHAHeTHALeDADdZAHdGHAIN"]⟩,
  ⟨0x1EEF0, ["ARABIC MATHEMATICAL OPERATOR MEEM WITH HAH WITH TATWEELzbHAH WITH DAL"]⟩,
  ⟨0x1F000, ["MAHJONG TILE EAST WINDjSOUTH WINDkWEST WINDjNORTH WINDkRED DRAGONkGREEN DRAGONmWHITE",
     " DRAGONmONE OF CHARACTERSrTWO OF CHARACTERSqHREE OF CHARACTERStFOUR OF CHARACTERSrIVE OF CHA",
     "RACTERSsSIX OF CHARACTERSqEVEN OF CHARACTERStEIGHT OF CHARACTERStNINE OF CHARACTERSsONE OF B",
     "AMBOOSoTWO OF BAMBOOSnHREE OF BAMBOOSqFOUR OF BAMBOOSoIVE OF BAMBOOSpSIX OF BAMBOOSnEVEN OF ",
     "BAMBOOSqEIGHT OF BAMBOOSqNINE OF BAMBOOSpONE OF CIRCLESoTWO OF CIRCLESnHREE OF CIRCLESqFOUR ",
     "OF CIRCLESoIVE OF CIRCLESpSIX OF CIRCLESnEVEN OF CIRCLESqEIGHT OF CIRCLESqNINE OF CIRCLESpPL",
     "UMeORCHIDgBAMBOOgCHRYSANTHEMUMnSPRINGfUMMERgAUTUMNgWINTERgJOKERfBACK"]⟩,
  ⟨0x1F030, ["DOMINO TILE HORIZONTAL BACKf-00-00b1b2b3b4b5b6e1-00b1b2b3b4b5b6e2-00b1b2b3b4b5b6e3-0",
     "0b1b2b3b4b5b6e4-00b1b2b3b4b5b6e5-00b1b2b3b4b5b6e6-00b1b2b3b4b5b6qVERTICAL BACKf-00-00b1b2b3b",
     "4b5b6e1-00b1b2b3b4b5b6e2-00b1b2b3b4b5b6e3-00b1b2b3b4b5b6e4-00b1b2b3b4b5b6e5-00b1b2b3b4b5b6e6",
     "-00b1b2b3b4b5b6"]⟩,
  ⟨0x1F0A0, ["PLAYING CARD BACKeACE OF SPADESnTWO OF SPADESmHREE OF SPADESpFOUR OF SPADESnIVE OF S",
     "PADESoSIX OF SPADESmEVEN OF SPADESpEIGHT OF SPADESpNINE OF SPADESoTEN OF SPADESnJACK OF SPAD",
     "ESoKNIGHT OF SPADESqQUEEN OF SPADESpKING OF SPADES"]⟩,
  ⟨0x1F0B1, ["PLAYING CARD ACE OF HEARTSnTWO OF HEARTSmHREE OF HEARTSpFOUR OF HEARTSnIVE OF HEARTS",
     "oSIX OF HEARTSmEVEN OF HEARTSpEIGHT OF HEARTSpNINE OF HEARTSoTEN OF HEARTSnJACK OF HEARTSoKN",
     "IGHT OF HEARTSqQUEEN OF HEARTSpKING OF HEARTSoRED JOKER"]⟩,
  ⟨0x1F0C1, ["PLAYING CARD ACE OF DIAMONDSpTWO OF DIAMONDSoHREE OF DIAMONDSrFOUR OF DIAMONDSpIVE O",
     "F DIAMONDSqSIX OF DIAMONDSoEVEN OF DIAMONDSrEIGHT OF DIAMONDSrNINE OF DIAMONDSqTEN OF DIAMON",
     "DSpJACK OF DIAMONDSqKNIGHT OF DIAMONDSsQUEEN OF DIAMONDSrKING OF DIAMONDSqBLACK JOKER"]⟩,
  ⟨0x1F0D1, ["PLAYING CARD ACE OF CLUBSmTWO OF CLUBSlHREE OF CLUBSoFOUR OF CLUBSmIVE OF CLUBSnSIX ",
     "OF CLUBSlEVEN OF CLUBSoEIGHT OF CLUBSoNINE OF CLUBSnTEN OF CLUBSmJACK OF CLUBSnKNIGHT OF CLU",
     "BSpQUEEN OF CLUBSoKING OF CLUBSnWHITE JOKERlFOOLeTRUMP-1b2b3b4b5b6b7b8b9b10b1b2b3b4b5b6b7b8b",
     "9c20b1"]⟩,
  ⟨0x1F100, ["DIGIT ZERO FULL STOPjCOMMAkONE COMMAjTWO COMMAiHREE COMMAlFOUR COMMAjIVE COMMAkSIX C",
     "OMMAiEVEN COMMAlEIGHT COMMAlNINE COMMAoNGBAT CIRCLED SANS-SERIF DIGIT ZEROzeNEGATIVE CIRCLED",
     " SANS-SERIF DIGIT ZEROzvCIRCLED ZERO WITH SLASHpANTICLOCKWISE ARROWtDOLLAR SIGN WITH OVERLAI",
     "D BACKSLASHzsPARENTHESIZED LATIN CAPITAL LETTER AbBbCbDbEbFbGbHbIbJbKbLbMbNbObPbQbRbSbTbUbVb",
     "WbXbYbZzlTORTOISE SHELL BRACKETED LATIN CAPITAL LETTER SzwCIRCLED ITALIC LATIN CAPITAL LETTE",
     "R CbRzeCDcWZjOPYLEFT SYMBOLpSQUARED LATIN CAPITAL LETTER AbBbCbDbEbFbGbHbIbJbKbLbMbNbObPbQbR",
     "bSbTbUbVbWbXbYbZwHVcMVcSDbScPPVdWCkNEGATIVE CIRCLED LATIN CAPITAL LETTER AbBbCbDbEbFbGbHbIbJ",
     "bKbLbMbNbObPbQbRbSbTbUbVbWbXbYbZzoRAISED MC SIGNgD SIGNgR SIGNoCIRCLED CCb WITH OVERLAID BAC",
     "KSLASHzHUMAN FIGUREuNEGATIVE SQUARED LATIN CAPITAL LETTER AbBbCbDbEbFbGbHbIbJbKbLbMbNbObPbQb",
     "RbSbTbUbVbWbXbYbZzoCROSSED NEGATIVE SQUARED LATIN CAPITAL LETTER PzwNEGATIVE SQUARED ICcPAcS",
     "AcABcWCtSQUARE DJdD CLbOOLeFREEeIDcNEWcGcOKcSOSdUP WITH EXCLAMATION MARKyVScTHREE DhSECOND S",
     "CREENnTWO KfFOUR KgEIGHT KhFIVE POINT ONEoSEVEN POINT ONEpTWENTY-TWO POINT TWOuSIXTY PhONE H",
     "UNDRED TWENTY PuLATIN SMALL LETTER DuHCbDRcI-RESgLOSSLESSiSHVdUHDdVODlMASK WORK SYMBOL"]⟩,
  ⟨0x1F1E6, ["REGIONAL INDICATOR SYMBOL LETTER AbBbCbDbEbFbGbHbIbJbKbLbMbNbObPbQbRbSbTbUbVbWbXbYbZ",
     "zjSQUARE HIRAGANA HOKAoD KATAKANA KOKOeSA"]⟩,
  ⟨0x1F210, ["SQUARED CJK UNIFIED IDEOGRAPH-624Be5B57d3CCzbKATAKANA DElCJK UNIFIED IDEOGRAPH-4E8Ce",
     "591Ae89E3e5929e4EA4e6620e7121e6599e524DdF8Cd18De65B0e521De7D42d51Fe8CA9e58F0d439e6F14d295d35",
     "5e4E00b9e904Ae5DE6e4E2De53F3e6307e8D70e6253e7981dA7Ae5408e6E80d709b8e7533e5272d5B6e914D"]⟩,
  ⟨0x1F240, ["TORTOISE SHELL BRACKETED CJK UNIFIED IDEOGRAPH-672Ce4E09c8Ce5B89e70B9e6253e76D7e52DD",
     "e6557"]⟩,
  ⟨0x1F250, ["CIRCLED IDEOGRAPH ADVANTAGEiCCEPT"]⟩,
  ⟨0x1F260, ["ROUNDED SYMBOL FOR FUcLUcSHOUeXIcSHUANGXIiCAI"]⟩,
  ⟨0x1F300, ["CYCLONEhFOGGYfCLOSED UMBRELLApNIGHT WITH STARSqSUNRISE OVER MOUNTAINSqEhCITYSCAPE AT",
     " DUSKrSUNSET OVER BUILDINGSvRAINBOWhBRIDGE AT NIGHTpWATER WAVEkVOLCANOhMILKY WAYjEARTH GLOBE",
     " EUROPE-AFRICAnAMERICAShSIA-AUSTRALIAzbGLOBE WITH MERIDIANSuNEW MOON SYMBOLpWAXING CRESCENT ",
     "MOON SYMBOLzcFIRST QUARTER MOON SYMBOLzWAXING GIBBOUS MOON SYMBOLzbFULL MOON SYMBOLqWANING G",
     "IBBOUS MOON SYMBOLzbLAST QUARTER MOON SYMBOLyWANING CRESCENT MOON SYMBOLzcCRESCENT MOONnNEW ",
     "MOON WITH FACEsFIRST QUARTER MOON WITH FACEzdLAST QUARTER MOON WITH FACEzcFULL MOON WITH FAC",
     "EtSUN WITH FACEnGLOWING STARmSHOOTING STARnTHERMOMETERlBLACK DROPLETnWHITE SUNa WITH SMALL C",
     "LOUDqBEHIND CLOUDa WITH RAINzhCLOUD WITH RAINeSNOWeLIGHTNINGjTORNADOsFOGdWIND BLOWING FACErH",
     "OT DOGhTACOeBURRITOhCHESTNUTiSEEDLINGiEVERGREEN TREEoDECIDUOUS TREEoPALM TREEjCACTUSgHOT PEP",
     "PERkTULIPfCHERRY BLOSSOMoROSEeHIBISCUSiSUNFLOWERjBLOSSOMhEAR OF MAIZEfRICElHERBeFOUR LEAF CL",
     "OVERqMAPLE LEAFkFALLEN LEAFlLEAF FLUTTERING IN WINDxMUSHROOMiTOMATOgAUBERGINEjGRAPESgMELONfW",
     "ATERMELONkTANGERINEjLEMONfBANANAgPINEAPPLEjRED APPLEjGREEN APPLElPEARbCHfCHERRIESiSTRAWBERRY",
     "kHAMBURGERjSLICE OF PIZZAoMEAT ON BONEmPOULTRY LEGlRICE CRACKERhBALLjCOOKED RICEkURRY AND RI",
     "CEoSTEAMING BOWLmPAGHETTIjBREADfFRENCH FRIESmROASTED SWEET POTATOuDANGOfODENeSUSHIfFRIED SHR",
     "IMPlISH CAKE WITH SWIRL DESIGNzcSOFT ICE CREAMnHAVED ICEkICE CREAMjDOUGHNUTiCOOKIEfHOCOLATE ",
     "BARmANDYfLOLLIPOPiCUSTARDhHONEY POTjSHORTCAKEjBENTO BOXjPOT OF FOODlCOOKINGhFORK AND KNIFEoT",
     "EACUP WITHOUT HANDLEvSAKE BOTTLE AND CUPtWINE GLASSkCOCKTAIL GLASSoTROPICAL DRINKoBEER MUGiC",
     "LINKING BEER MUGSsBABY BOTTLElFORK AND KNIFE WITH PLATEzBOTTLE WITH POPPING CORKyPOPCORNhRIB",
     "BONgWRAPPED PRESENTpBIRTHDAY CAKEnJACK-O-LANTERNoCHRISTMAS TREEoFATHER CHRISTMASpIREWORKSb S",
     "PARKLERrBALLOONhPARTY POPPERmCONFETTI BALLnTANABATA TREEnCROSSED FLAGSnPINE DECORATIONpJAPAN",
     "ESE DOLLSoCARP STREAMERnWIND CHIMEkMOON VIEWING CEREMONYvSCHOOL SATCHELoGRADUATION CAPoHEART",
     " WITH TIP ON THE LEFTzbBOUQUET OF FLOWERSsMILITARY MEDALoREMINDER RIBBONpMUSICAL KEYBOARD WI",
     "TH JACKSzcSTUDIO MICROPHONErLEVEL SLIDERmCONTROL KNOBSnBEAMED ASCENDING MUSICAL NOTESxDESCEN",
     "DING MUSICAL NOTESzgFILM FRAMESlADMISSION TICKETSrCAROUSEL HORSEoFERRIS WHEELmROLLER COASTER",
     "oFISHING POLE AND FISHvMICROPHONEjOVIE CAMERAmCINEMAgHEADPHONEjARTIST PALETTEoTOP HAThCIRCUS",
     " TENTlTICKETgCLAPPER BOARDnPERFORMING ARTSpVIDEO GAMEkDIRECT HITkSLOT MACHINEmBILLIARDSjGAME",
     " DIEiBOWLINGhFLOWER PLAYING CARDSuMUSICAL NOTEkLTIPLE MUSICAL NOTESwSAXOPHONEjGUITARgMUSICAL",
     " KEYBOARDqTRUMPEThVIOLINgMUSICAL SCOREnRUNNING SHIRT WITH SASHxTENNIS RACQUET AND BALLxSKI A",
     "ND SKI BOOTqBASKETBALL AND HOOPtCHEQUERED FLAGoSNOWBOARDERlRUNNERgSURFERfPORTS MEDALmTROPHYg",
     "HORSE RACINGmAMERICAN FOOTBALLrRUGBY FOOTBALLoSWIMMERhWEIGHT LIFTERnGOLFERgRACING MOTORCYCLE",
     "kCARkCRICKET BAT AND BALLuVOLLEYBALLkFIELD HOCKEY STICK AND BALLzcICE HOCKEY STICK AND PUCKz",
     "TABLE TENNIS PADDLE AND BALLzdSNOW CAPPED MOUNTAINuCAMPINGhBEACH WITH UMBRELLAsUILDING CONST",
     "RUCTIONvHOUSE BUILDINGSpCITYSCAPEjDERELICT HOUSE BUILDINGxCLASSICAL BUILDINGsDESERTa ISLANDn",
     "NATIONAL PARKnSTADIUMhHOUSE BUILDINGiWITH GARDENrOFFICE BUILDINGpJAPANESE POST OFFICEuEUROPE",
     "AN POST OFFICEuHOSPITALiBANKeAUTOMATED TELLER MACHINEyHOTELfLOVE HOTELkCONVENIENCE STORErSCH",
     "OOLgDEPARTMENT STOREqFACTORYhIZAKAYA LANTERNpJAPANESE CASTLEpEUROPEAN CASTLEpWHITE PENNANTnB",
     "LACK PENNANTnWAVING WHITE FLAGkBLACK FLAGrROSETTEhBLACK ROSETTEnLABELfBADMINTON RACQUET AND ",
     "SHUTTLECOCKzhOW AND ARROWnAMPHORAhEMOJI MODIFIER FITZPATRICK TYPE-1-2d3b4b5b6ziRATdMOUSEfOXc",
     "WATER BUFFALOnCOWdTIGERfLEOPARDhRABBITgCATdDRAGONgCROCODILEjWHALEfSNAILcKEfHORSEfRAMdGOATeSH",
     "EEPfMONKEYgROOSTERhCHICKENhDOGdPIGdBOAReELEPHANTiOCTOPUShSPIRAL SHELLmBUGdANTdHONEYBEEiLADY ",
     "BEETLElFISHeTROPICAL FISHnBLOWFISHiTURTLEgHATCHING CHICKoBABY CHICKkFRONT-FACING BABY CHICKx",
     "BIRDePENGUINhKOALAfPOODLEgDROMEDARY CAMELpBACTRIAN CAMELoDOLPHINhMOUSE FACEkCOW FACEiTIGER F",
     "ACEkRABBIT FACElCAT FACEiDRAGON FACElSPOUTING WHALEoHORSE FACEkMONKEY FACElDOG FACEiPIG FACE",
     "iFROG FACEjHAMSTER FACEmWOLF FACEjBEAR FACEjPANDA FACEjIG NOSEhAW PRINTSkCHIPMUNKiEYEScEcARd",
     "NOSEeMOUTHfTONGUEgWHITE UP POINTING BACKHAND INDEXzbDOWN POINTING BACKHAND INDEXzdLEFT POINT",
     "ING BACKHAND INDEXzdRIGHT POINTING BACKHAND INDEXzkFISTED HAND SIGNqWAVING HAND SIGNqOK HAND",
     " SIGNmTHUMBS UP SIGNhDOWN SIGNqCLAPPING HANDS SIGNtOPEN HANDS SIGNpCROWNfWOMANS HATkEYEGLASS",
     "ESkNECKTIEhT-SHIRThJEANSfDRESSfKIMONOgBIKINIgWOMANS CLOTHESoPURSEfHANDBAGhPOUCHfMANS SHOEjAT",
     "HLETIC SHOEnHIGH-HEELED SHOEqWOMANS SANDALgBOOTSmFOOTPRINTSkBUST IN SILHOUETTEoS IN SILHOUET",
     "TEsOYdGIRLeMANdWOMANfFAMILYgMAN AND WOMAN HOLDING HANDSzcTWO MEN HOLDING HANDSrWOMEN HOLDING",
     " HANDSxPOLICE OFFICERoWOMAN WITH BUNNY EARSvBRIDE WITH VEILpPERSON WITH BLOND HAIRwMAN WITH ",
     "GUA PI MAOkTURBANpOLDER MANdWOMANlBABYeCONSTRUCTION WORKERtPRINCESSiJAPANESE OGREeGOBLINpGHO",
     "STfBABY ANGELkEXTRATERRESTRIAL ALIENwALIEN MONSTERnIMPdSKULLfINFORMATION DESK PERSONxGUARDSM",
     "ANjDANCERgLIPSTICKiNAIL POLISHlFACE MASSAGEmHAIRCUThBARBER POLElSYRINGEhPILLeKISS MARKjLOVE ",
     "LETTERlRINGeGEM STONEjKISSeBOUQUEThCOUPLE WITH HEARTrWEDDINGhBEATING HEARTmROKEN HEARTmTWO H",
     "EARTSkSPARKLING HEARTpGROWING HEARTnHEART WITH ARROWqBLUE HEARTkGREEN HEARTlYELLOW HEARTmPUR",
     "PLE HEARTmHEART WITH RIBBONrREVOLVING HEARTSqHEART DECORATIONqDIAMOND SHAPE WITH A DOT INSID",
     "EzgELECTRIC LIGHT BULBtANGER SYMBOLmBOMBeSLEEPING SYMBOLpCOLLISION SYMBOLqSPLASHING SWEAT SY",
     "MBOLwDROPLETgASH SYMBOLlPILE OF POOlFLEXED BICEPSnDIZZY SYMBOLmSPEECH BALLOONoTHOUGHT BALLOO",
     "NpWHITE FLOWERmHUNDRED POINTS SYMBOLvMONEY BAGjCURRENCY EXCHANGErHEAVY DOLLAR SIGNrCREDIT CA",
     "RDlBANKNOTE WITH YEN SIGNiDOLLAR SIGNlEURO SIGNjPOUND SIGNyMONEY WITH WINGSqCHART WITH UPWAR",
     "DS TREND AND YEN SIGNzmSEATePERSONAL COMPUTERrBRIEFCASEjMINIDISCiFLOPPY DISKlOPTICAL DISCmDV",
     "DdFILE FOLDERlOPEN FILE FOLDERqPAGE WITH CURLjFACING UPoCALENDARiTEAR-OFF CALENDARrCARD INDE",
     "XjHART WITH UPWARDS TRENDnDOWNWARDS TRENDzbBAR CHARTjCLIPBOARDjPUSHPINhROUND PUSHPINnPAPERCL",
     "IPjSTRAIGHT RULERoTRIANGULAR RULERqBOOKMARK TABSnLEDGERgNOTEBOOKa WITH DECORATIVE COVERzfCLO",
     "SED BOOKlOPEN BOOKjGREEN BOOKkBLUE BOOKjORANGE BOOKlBOOKSfNAME BADGEkSCROLLgMEMOeTELEPHONE R",
     "ECEIVERsPAGERfFAX MACHINElSATELLITE ANTENNArPUBLIC ADDRESS LOUDSPEAKERzbCHEERING MEGAPHONEsO",
     "UTBOX TRAYlINBOX TRAYkPACKAGEhE-MAIL SYMBOLnINCOMING ENVELOPErENVELOPE WITH DOWNWARDS ARROW ",
     "ABOVEzkCLOSED MAILBOX WITH LOWERED FLAGmRAISED FLAGzgOPEN MAILBOX WITH RAISED FLAGlLOWERED F",
     "LAGzfPOSTBOXdAL HORNlNEWSPAPERjMOBILE PHONEa WITH RIGHTWARDS ARROW AT LEFTzrVIBRATION MODEoM",
     "OBILE PHONE OFFqNO MOBILE PHONESqANTENNA WITH BARSrCAMERAa WITH FLASHrVIDEO CAMERAmTELEVISIO",
     "NkRADIOfVIDEOCASSETTEnFILM PROJECTORoPORTABLE STEREOoRAYER BEADSmTWISTED RIGHTWARDS ARROWSzC",
     "LOCKWISE RIGHTWARDS AND LEFTWARDS OPEN CIRCLE ARROWSa WITH CIRCLED ONE OVERLAYzzsDOWNWARDS A",
     "ND UPWARDS OPEN CIRCLE ARROWSzzANTICLOCKWISE DOWNWARDS AND UPWARDS OPEN CIRCLE ARROWSzzeLOW ",
     "BRIGHTNESS SYMBOLvHIGH BRIGHTNESS SYMBOLwSPEAKER WITH CANCELLATION STROKEzbRa WITH ONE SOUND",
     " WAVEoTHREE SOUND WAVESzfBATTERYhELECTRIC PLUGnLEFT-POINTING MAGNIFYING GLASSzfRIGHT-POINTIN",
     "G MAGNIFYING GLASSzgLOCK WITH INK PENrCLOSED LOCK WITH KEYuKEYdLOCKeOPEN LOCKjBELLa WITH CAN",
     "CELLATION STROKEzdOOKMARKiLINK SYMBOLlRADIO BUTTONmBACK WITH LEFTWARDS ARROW ABOVEzgEND WITH",
     " LEFTWARDS ARROW ABOVEzfON WITH EXCLAMATION MARK WITH LEFT RIGHT ARROW ABOVEzzcSOON WITH RIG",
     "HTWARDS ARROW ABOVEzhTOP WITH UPWARDS ARROW ABOVEzdNO ONE UNDER EIGHTEEN SYMBOLzdKEYCAP TENk",
     "INPUT SYMBOL FOR LATIN CAPITAL LETTERSpSMALL LETTERStNUMBERShSYMBOLShLATIN LETTERSzfFIREeELE",
     "CTRIC TORCHoWRENCHgHAMMERgNUT AND BOLTmHOCHOfPISTOLgMICROSCOPEkTELESCOPEjCRYSTAL BALLmSIX PO",
     "INTED STAR WITH MIDDLE DOTzhJAPANESE SYMBOL FOR BEGINNERzdTRIDENT EMBLEMoBLACK SQUARE BUTTON",
     "tWHITE SQUARE BUTTONtLARGE RED CIRCLEkBLUE CIRCLElORANGE DIAMONDoBLUE DIAMONDsSMALL ORANGE D",
     "IAMONDoBLUE DIAMONDsUP-POINTING RED TRIANGLEyDOWN-POINTING RED TRIANGLEzbUP-POINTING SMALL R",
     "ED TRIANGLEzfDOWN-POINTING SMALL RED TRIANGLEzhLOWER RIGHT SHADOWED WHITE CIRCLEziUPPER RIGH",
     "T SHADOWED WHITE CIRCLEziCIRCLED CROSS POMMEEtROSS POMMEE WITH HALF-CIRCLE BELOWyEmNOTCHED L",
     "EFT SEMICIRCLE WITH THREE DOTSzgRIGHT SEMICIRCLE WITH THREE DOTSzpSYMBOL FOR MARKS CHAPTERyW",
     "HITE LATIN CROSSrHEAVY LATIN CROSSrCELTIC CROSSmOM SYMBOLjDOVE OF PEACEnKAABAfMOSQUEgSYNAGOG",
     "UEjMENORAH WITH NINE BRANCHESzbBOWL OF HYGIEIApCLOCK FACE ONE OCLOCKkTWO OCLOCKjHREE OCLOCKm",
     "FOUR OCLOCKkIVE OCLOCKlSIX OCLOCKjEVEN OCLOCKmEIGHT OCLOCKmNINE OCLOCKlTEN OCLOCKkELEVEN OCL",
     "OCKnTWELVE OCLOCKnONE-THIRTYkTWO-THIRTYjHREE-THIRTYmFOUR-THIRTYkIVE-THIRTYlSIX-THIRTYjEVEN-T",
     "HIRTYmEIGHT-THIRTYmNINE-THIRTYlTEN-THIRTYkELEVEN-THIRTYnTWELVE-THIRTYyRIGHT SPEAKERa WITH ON",
     "E SOUND WAVEoTHREE SOUND WAVESzlBULLHORNa WITH SOUND WAVESzRINGING BELLmBOOKeCANDLEgMANTELPI",
     "ECE CLOCKrBLACK SKULL AND CROSSBONESzbNO PIRACYjHOLEeMAN IN BUSINESS SUIT LEVITATINGzgSLEUTH",
     " OR SPYnDARK SUNGLASSESpSPIDERa WEBkJOYSTICKiMAN DANCINGlLEFT HAND TELEPHONE RECEIVERzdTELEP",
     "HONE RECEIVER WITH PAGEzdRIGHT HAND TELEPHONE RECEIVERzeWHITE TOUCHTONE TELEPHONEzBLACK TOUC",
     "HTONE TELEPHONEzTELEPHONE ON TOP OF MODEMzCLAMSHELL MOBILE PHONEwBACK OF ENVELOPEqSTAMPED EN",
     "VELOPEqENVELOPE WITH LIGHTNINGxFLYING ENVELOPEpPEN OVER STAMPED ENVELOPEzLINKED PAPERCLIPSrB",
     "LACK PUSHPINnLOWER LEFT PENCILgBALLPOINT PENnFOUNTAIN PENmPAINTBRUSHkCRAYONqEFT WRITING HAND",
     "rTURNED OK HAND SIGNtRAISED HAND WITH FINGERS SPLAYEDzgEVERSED RAISED HAND WITH FINGERS SPLA",
     "YEDzhTHUMBS UP SIGNhDOWN SIGNqVICTORY HANDmHAND WITH MIDDLE FINGER EXTENDEDzpAISED HAND WITH",
     " PART BETWEEN MIDDLE AND RING FINGERSzzdWHITE DOWN POINTING LEFT HAND INDEXzkSIDEWAYS WHITE ",
     "LEFT POINTING INDEXtRIGHT POINTING INDEXzbBLACK LEFT POINTING INDEXtRIGHT POINTING INDEXzkBL",
     "ACK LEFT POINTING BACKHAND INDEXzdRIGHT POINTING BACKHAND INDEXzkSIDEWAYS WHITE UP POINTING ",
     "INDEXrDOWN POINTING INDEXzBLACK UP POINTING INDEXrDOWN POINTING INDEXzjBLACK UP POINTING BAC",
     "KHAND INDEXzbDOWN POINTING BACKHAND INDEXzdHEARTlDESKTOP COMPUTERqKEYBOARD AND MOUSEsTHREE N",
     "ETWORKED COMPUTERSzPRINTERgOCKET CALCULATORrBLACK HARD SHELL FLOPPY DISKzdWHITE HARD SHELL F",
     "LOPPY DISKzdSOFT SHELL FLOPPY DISKwTAPE CARTRIDGEoWIRED KEYBOARDoONE BUTTON MOUSEqTWO BUTTON",
     " MOUSEpHREE BUTTON MOUSErRACKBALLjOLD PERSONAL COMPUTERvHARD DISKjSCREENgPRINTER ICONmFAX IC",
     "ONiOPTICAL DISC ICONrDOCUMENT WITH TEXTa AND PICTUREqPICTUREvFRAME WITH PICTUREhTILESfAN XpB",
     "LACK FOLDERmFOLDERgOPEN FOLDERlCARD INDEX DIVIDERSoFILE BOXnFILE CABINETmEMPTY NOTEa PAGEcDo",
     "NOTEa PAGEcDiEMPTY DOCUMENTiPAGEaSlDOCUMENTiPAGEaSfWASTEBASKETlSPIRAL NOTE PADiCALENDAR PADt",
     "DESKTOP WINDOWoMINIMIZEhAXIMIZEiOVERLAPhCLOCKWISE RIGHT AND LEFT SEMICIRCLE ARROWSzqANCELLAT",
     "ION XoINCREASE FONT SIZE SYMBOLzDECREASE FONT SIZE SYMBOLzCOMPRESSIONlOLD KEYhROLLED-UP NEWS",
     "PAPERtPAGE WITH CIRCLED TEXTwSTOCK CHARTlDAGGER KNIFEmLIPSeSPEAKING HEAD IN SILHOUETTEzcTHRE",
     "E RAYS ABOVEfBELOWfLEFTeRIGHTqLEFT SPEECH BUBBLEsRIGHT SPEECH BUBBLEtTWO SPEECH BUBBLESrHREE",
     " SPEECH BUBBLESuLEFT THOUGHT BUBBLEtRIGHT THOUGHT BUBBLEuLEFT ANGER BUBBLErRIGHT ANGER BUBBL",
     "EsMOOD BUBBLElLIGHTNING MOOD BUBBLEiDoBALLOT BOX WITH BALLOTpSCRIPT XiBOX WITH SCRIPT XpLD S",
     "CRIPT XlX WITH BOLD SCRIPT XzeLIGHT CHECK MARKqBALLOT BOX WITH BOLD CHECKzbWORLD MAPjMOUNT F",
     "UJIkTOKYO TOWERlSTATUE OF LIBERTYqILHOUETTE OF JAPANtMOYAIfGRINNING FACEa WITH SMILING EYESz",
     "gFACE WITH TEARS OF JOYwSMILING FACE WITH OPEN MOUTHa AND SMILING EYESmCOLD SWEATkTIGHTLY-CL",
     "OSED EYESzjHALOdORNSxWINKING FACEmSMILING FACE WITH SMILING EYESzfFACE SAVOURING DELICIOUS F",
     "OODzeRELIEVED FACEnSMILING FACE WITH HEART-SHAPED EYESrSUNGLASSESzRKING FACEnNEUTRAL FACEmEX",
     "PRESSIONLESS FACEtUNAMUSED FACEnFACE WITH COLD SWEATuPENSIVE FACEmCONFUSED FACEjOUNDED FACEp",
     "KISSING FACEmFACE THROWING A KISSuKISSING FACE WITH SMILING EYESmCLOSED EYESzeFACE WITH STUC",
     "K-OUT TONGUEa AND WINKING EYElTIGHTLY-CLOSED EYESzzDISAPPOINTED FACErWORRIED FACEmANGRY FACE",
     "kPOUTING FACEmCRYING FACElPERSEVERING FACEqFACE WITH LOOK OF TRIUMPHzDISAPPOINTED BUT RELIEV",
     "ED FACEzfFROWNING FACE WITH OPEN MOUTHzeANGUISHED FACEoFEARFUL FACEmWEARY FACEkSLEEPY FACElT",
     "IRED FACEkGRIMACING FACEoLOUDLY CRYING FACEsFACE WITH OPEN MOUTHuHUSHED FACElFACE WITH OPEN ",
     "MOUTH AND COLD SWEATzfSCREAMING IN FEARwASTONISHED FACEpFLUSHED FACEmSLEEPING FACEnDIZZY FAC",
     "EkFACE WITHOUT MOUTHj MEDICAL MASKwGRINNING CAT FACE WITH SMILING EYESzkCAT FACE WITH TEARS ",
     "OF JOYzbSMILING CAT FACE WITH OPEN MOUTHkHEART-SHAPED EYESzoCAT FACE WITH WRY SMILExKISSING ",
     "CAT FACE WITH CLOSED EYESziPOUTING CAT FACEqCRYING CAT FACEpWEARY CAT FACEoSLIGHTLY FROWNING",
     " FACEnSMILING FACEvUPSIDE-DOWN FACEqFACE WITH ROLLING EYESmNO GOOD GESTUREpOK GESTUREuPERSON",
     " BOWING DEEPLYuSEE-NO-EVIL MONKEYsHEAR-NO-EVIL MONKEYtSPEAK-NO-EVIL MONKEYuHAPPY PERSON RAIS",
     "ING ONE HANDzePERSON RAISING BOTH HANDS IN CELEBRATIONziFROWNINGiWITH POUTING FACEmFOLDED HA",
     "NDSyNORTH WEST POINTING LEAFySOUTH WEST POINTING LEAFyNORTH EAST POINTING LEAFySOUTH EAST PO",
     "INTING LEAFyTURNED NORTH WEST POINTING LEAFySOUTH WEST POINTING LEAFyNORTH EAST POINTING LEA",
     "FySOUTH EAST POINTING LEAFzgNORTH WEST POINTING VINE LEAFzeSOUTH WEST POINTING VINE LEAFzeNO",
     "RTH EAST POINTING VINE LEAFzeSOUTH EAST POINTING VINE LEAFzeHEAVY NORTH WEST POINTING VINE L",
     "EAFzeSOUTH WEST POINTING VINE LEAFzeNORTH EAST POINTING VINE LEAFzeSOUTH EAST POINTING VINE ",
     "LEAFzkNORTH WEST POINTING BUDxSOUTH WEST POINTING BUDxNORTH EAST POINTING BUDxSOUTH EAST POI",
     "NTING BUDxHEAVY NORTH WEST POINTING BUDxSOUTH WEST POINTING BUDxNORTH EAST POINTING BUDxSOUT",
     "H EAST POINTING BUDzdOLLOW QUILT SQUARE ORNAMENTa IN BLACK SQUAREztSOLID QUILT SQUARE ORNAME",
     "NTa IN BLACK SQUAREzsLEFTWARDS ROCKETqUPWARDS ROCKEToRIGHTWARDS ROCKETrDOWNWARDS ROCKETqSCRI",
     "PT LIGATURE ET ORNAMENTzcHEAVY SCRIPT LIGATURE ET ORNAMENTziLIGATURE OPEN ET ORNAMENTzHEAVY ",
     "LIGATURE OPEN ET ORNAMENTzAMPERSAND ORNAMENTySWASH AMPERSAND ORNAMENTxANS-SERIF HEAVY DOUBLE",
     " TURNED COMMA QUOTATION MARK ORNAMENTzlCOMMA QUOTATION MARK ORNAMENTzlLOW DOUBLE COMMA QUOTA",
     "TION MARK ORNAMENTzzhHEAVY INTERROBANG ORNAMENTzbSANS-SERIF INTERROBANG ORNAMENTzgHEAVY SANS",
     "-SERIF INTERROBANG ORNAMENTzmVERY HEAVY SOLIDUShREVERSE SOLIDUSzbCHECKER BOARDnREVERSE CHECK",
     "ER BOARDuOCKETgHELICOPTERkSTEAM LOCOMOTIVEqRAILWAY CARlHIGH-SPEED TRAINa WITH BULLET NOSEziT",
     "RAINfMETROfLIGHT RAILkSTATIONhTRAMa CARiBUSdONCOMING BUSmTROLLEYBUSkBUS STOPiMINIBUShAMBULAN",
     "CEjFIRE ENGINElPOLICE CARkONCOMING POLICE CARtTAXIeONCOMING TAXInAUTOMOBILEkONCOMING AUTOMOB",
     "ILEtRECREATIONAL VEHICLEuDELIVERY TRUCKoARTICULATED LORRYrTRACTORhMONORAILgUNTAIN RAILWAYqSU",
     "SPENSION RAILWAYsMOUNTAIN CABLEWAYrAERIAL TRAMWAYoSHIPeROWBOAThSPEEDBOATjHORIZONTAL TRAFFIC ",
     "LIGHTyVERTICAL TRAFFIC LIGHTwCONSTRUCTION SIGNrPOLICE CARS REVOLVING LIGHTzcTRIANGULAR FLAG ",
     "ON POSTxDOOReNO ENTRY SIGNnSMOKING SYMBOLoNO SMOKING SYMBOLrPUT LITTER IN ITS PLACE SYMBOLzf",
     "DO NOT LITTER SYMBOLuPOTABLE WATER SYMBOLuNON-POTABLE WATER SYMBOLyBICYCLEhNO BICYCLESlBICYC",
     "LISTjMOUNTAIN BICYCLISTsPEDESTRIANkNO PEDESTRIANSoCHILDREN CROSSINGrMENS SYMBOLlWOMENS SYMBO",
     "LnRESTROOMiBABY SYMBOLlTOILETgWATER CLOSETmSHOWERgBATHaTUBhPASSPORT CONTROLqCUSTOMShBAGGAGE ",
     "CLAIMnLEFT LUGGAGEmTRIANGLE WITH ROUNDED CORNERSzePROHIBITED SIGNpCIRCLED INFORMATION SOURCE",
     "zbBOYS SYMBOLlGIRLS SYMBOLmCOUCH AND LAMPoSLEEPING ACCOMMODATIONvHOPPING BAGSnBELLHOP BELLkD",
     "dPLACE OF WORSHIPqOCTAGONAL SIGNoSHOPPING TROLLEYpTUPAfPAGODAgHINDU TEMPLElUTdELEVATOR"]⟩,
  ⟨0x1F6DD, ["PLAYGROUND SLIDEqWHEELfRING BUOYjHAMMER AND WRENCHrSHIELDgOIL DRUMiMOTORWAYiRAILWAY ",
     "TRACKnMOTOR BOATkUP-POINTING MILITARY AIRPLANErAIRPLANEiSMALL AIRPLANEzbSMALL AIRPLANEoNORTH",
     "EAST-POINTING AIRPLANEzcAIRPLANE DEPARTUREjARRIVING"]⟩,
  ⟨0x1F6F0, ["SATELLITEjONCOMING FIRE ENGINEuDIESEL LOCOMOTIVErPASSENGER SHIPoSCOOTERhMOTOR SCOOTE",
     "RnCANOEfSLEDeFLYING SAUCERnSKATEBOARDkAUTO RICKSHAWnPICKUP TRUCKmROLLER SKATE"]⟩,
  ⟨0x1F700, ["ALCHEMICAL SYMBOL FOR QUINTESSENCEmAIRdFIREeEARTHfWATERfAQUAFORTISg REGIAa-2hVITAEa-",
     "2mVINEGARa-2b3jSULFURgPHILOSOPHERS SULFURtBLACK SULFURmMERCURY SUBLIMATEa-2b3tCINNABARiSALTe",
     "NITREfVITRIOLa-2jROCK SALTa-2lGOLDeSILVERgIRON OREa-2kCROCUS OF IRONoREGULUS OF IRONpCOPPER ",
     "OREkIRON-COPPER OREpSUBLIMATE OF COPPERtCROCUS OF COPPERa-2rOPPER ANTIMONIATEsSALT OF COPPER",
     " ANTIMONIATEzUBLIMATE OF SALT OF COPPERzcVERDIGRISjTIN OREhLEAD OREiANTIMONY OREmSUBLIMATE O",
     "F ANTIMONYuALT OF ANTIMONYpUBLIMATE OF SALT OF ANTIMONYzeVINEGAR OF ANTIMONYtREGULUS OF ANTI",
     "MONYa-2pSa-2b3b4jALKALIa-2iMARCASITEjSAL-AMMONIACmARSENIChREALGARa-2jAURIPIGMENTlBISMUTH ORE",
     "lTARTARa-2iQUICK LIMEkBORAXa-2b3hALUMeOILdSPIRITgTINCTUREiGUMdWAXdPOWDERgCALXeTUTTYfCAPUT MO",
     "RTUUMnSCEPTER OF JOVEpCADUCEUSiTRIDENThSTARRED TRIDENTpLODESTONEjSOAPeURINEfHORSE DUNGkASHES",
     "fPOT ASHESjBRICKfPOWDERED BRICKoAMALGAMhSTRATUM SUPER STRATUMa-2wUBLIMATIONlPRECIPITATElDIST",
     "ILLeSOLVEa-2kPURIFYeTREFACTIONmCRUCIBLEa-2b3b4b5kALEMBIChBATH OF MARYeVAPOURSpRETORTgHOUReNI",
     "GHTfDAY-NIGHTjMONTHfHALF DRAMeOUNCE"]⟩,
  ⟨0x1F780, ["BLACK LEFT-POINTING ISOSCELES RIGHT TRIANGLEznUP-POINTING ISOSCELES RIGHT TRIANGLEzl",
     "RIGHT-POINTING ISOSCELES RIGHT TRIANGLEzoDOWN-POINTING ISOSCELES RIGHT TRIANGLEznSLIGHTLY SM",
     "ALL CIRCLEzcMEDIUM BOLD WHITE CIRCLEyBOLD WHITE CIRCLErHEAVY WHITE CIRCLEsVERY HEAVY WHITE C",
     "IRCLExEXTREMELY HEAVY WHITE CIRCLEzdWHITE CIRCLE CONTAINING BLACK SMALL CIRCLEzrROUND TARGET",
     "mBLACK TINY SQUARElSLIGHTLY SMALL SQUAREzcLIGHT WHITE SQUAREsMEDIUM WHITE SQUAREtBOLD WHITE ",
     "SQUARErHEAVY WHITE SQUAREsVERY HEAVY WHITE SQUARExEXTREMELY HEAVY WHITE SQUAREzdWHITE SQUARE",
     " CONTAINING BLACK VERY SMALL SQUARErMEDIUM SQUAREzsSQUARE TARGETnBLACK TINY DIAMONDmVERY SMA",
     "LL DIAMONDsMEDIUM SMALL DIAMONDzbWHITE DIAMOND CONTAINING BLACK VERY SMALL DIAMONDsMEDIUM DI",
     "AMONDzuDIAMOND TARGEToBLACK TINY LOZENGEmVERY SMALL LOZENGEsMEDIUM SMALL LOZENGEzbWHITE LOZE",
     "NGE CONTAINING BLACK SMALL LOZENGEztTHIN GREEK CROSSqLIGHT GREEK CROSSrMEDIUM GREEK CROSSsBO",
     "LD GREEK CROSSqVERY BOLD GREEK CROSSqHEAVY GREEK CROSSwEXTREMELY HEAVY GREEK CROSSzcTHIN SAL",
     "TIREmLIGHT SALTIREnMEDIUM SALTIREoBOLD SALTIREmHEAVY SALTIREnVERY HEAVY SALTIREsEXTREMELY HE",
     "AVY SALTIRExLIGHT FIVE SPOKED ASTERISKzbMEDIUM FIVE SPOKED ASTERISKzcBOLD FIVE SPOKED ASTERI",
     "SKzHEAVY FIVE SPOKED ASTERISKzbVERY HEAVY FIVE SPOKED ASTERISKzgEXTREMELY HEAVY FIVE SPOKED ",
     "ASTERISKzlLIGHT SIX SPOKED ASTERISKzMEDIUM SIX SPOKED ASTERISKzbBOLD SIX SPOKED ASTERISKyHEA",
     "VY SIX SPOKED ASTERISKzVERY HEAVY SIX SPOKED ASTERISKzfEXTREMELY HEAVY SIX SPOKED ASTERISKzk",
     "LIGHT EIGHT SPOKED ASTERISKzcMEDIUM EIGHT SPOKED ASTERISKzdBOLD EIGHT SPOKED ASTERISKzbHEAVY",
     " EIGHT SPOKED ASTERISKzcVERY HEAVY EIGHT SPOKED ASTERISKzhLIGHT THREE POINTED BLACK STARzfME",
     "DIUM THREE POINTED BLACK STARzgTHREE POINTED BLACK STARyMEDIUM THREE POINTED PINWHEEL STARzj",
     "LIGHT FOUR POINTED BLACK STARzeMEDIUM FOUR POINTED BLACK STARzfFOUR POINTED BLACK STARxMEDIU",
     "M FOUR POINTED PINWHEEL STARziREVERSE LIGHT FOUR POINTED PINWHEEL STARzpLIGHT FIVE POINTED B",
     "LACK STARzeHEAVY FIVE POINTED BLACK STARzeMEDIUM SIX POINTED BLACK STARzeHEAVY SIX POINTED B",
     "LACK STARzdSIX POINTED PINWHEEL STARzMEDIUM EIGHT POINTED BLACK STARzgHEAVY EIGHT POINTED BL",
     "ACK STARzfVERY HEAVY EIGHT POINTED BLACK STARzkHEAVY EIGHT POINTED PINWHEEL STARziLIGHT TWEL",
     "VE POINTED BLACK STARzgHEAVY TWELVE POINTED BLACK STARkPINWHEEL STARzjCIRCLED TRIANGLEqNEGAT",
     "IVE CIRCLED TRIANGLEzCIRCLED SQUAREoNEGATIVE CIRCLED SQUARE"]⟩,
  ⟨0x1F7E0, ["LARGE ORANGE CIRCLEnYELLOW CIRCLEnGREEN CIRCLEmPURPLE CIRCLEnBROWN CIRCLEmRED SQUARE",
     "kBLUE SQUARElORANGE SQUAREnYELLOW SQUAREnGREEN SQUAREmPURPLE SQUAREnBROWN SQUARE"]⟩,
  ⟨0x1F7F0, ["HEAVY EQUALS SIGN"]⟩,
  ⟨0x1F800, ["LEFTWARDS ARROW WITH SMALL TRIANGLE ARROWHEADzuUPWARDS ARROW WITH SMALL TRIANGLE ARR",
     "OWHEADzsRIGHTWARDS ARROW WITH SMALL TRIANGLE ARROWHEADzvDOWNWARDS ARROW WITH SMALL TRIANGLE ",
     "ARROWHEADzuLEFTWARDS ARROW WITH MEDIUM TRIANGLE ARROWHEADzvUPWARDS ARROW WITH MEDIUM TRIANGL",
     "E ARROWHEADztRIGHTWARDS ARROW WITH MEDIUM TRIANGLE ARROWHEADzwDOWNWARDS ARROW WITH MEDIUM TR",
     "IANGLE ARROWHEADzvLEFTWARDS ARROW WITH LARGE TRIANGLE ARROWHEADzuUPWARDS ARROW WITH LARGE TR",
     "IANGLE ARROWHEADzsRIGHTWARDS ARROW WITH LARGE TRIANGLE ARROWHEADzvDOWNWARDS ARROW WITH LARGE",
     " TRIANGLE ARROWHEAD"]⟩,
  ⟨0x1F810, ["LEFTWARDS ARROW WITH SMALL EQUILATERAL ARROWHEADzxUPWARDS ARROW WITH SMALL EQUILATER",
     "AL ARROWHEADzvRIGHTWARDS ARROW WITH SMALL EQUILATERAL ARROWHEADzyDOWNWARDS ARROW WITH SMALL ",
     "EQUILATERAL ARROWHEADzxLEFTWARDS ARROW WITH EQUILATERAL ARROWHEADzrUPWARDS ARROW WITH EQUILA",
     "TERAL ARROWHEADzpRIGHTWARDS ARROW WITH EQUILATERAL ARROWHEADzsDOWNWARDS ARROW WITH EQUILATER",
     "AL ARROWHEADzrHEAVY LEFTWARDS ARROW WITH EQUILATERAL ARROWHEADzrUPWARDS ARROW WITH EQUILATER",
     "AL ARROWHEADzpRIGHTWARDS ARROW WITH EQUILATERAL ARROWHEADzsDOWNWARDS ARROW WITH EQUILATERAL ",
     "ARROWHEADzrLEFTWARDS ARROW WITH LARGE EQUILATERAL ARROWHEADzxUPWARDS ARROW WITH LARGE EQUILA",
     "TERAL ARROWHEADzvRIGHTWARDS ARROW WITH LARGE EQUILATERAL ARROWHEADzyDOWNWARDS ARROW WITH LAR",
     "GE EQUILATERAL ARROWHEADzzeLEFTWARDS TRIANGLE-HEADED ARROW WITH NARROW SHAFTzyUPWARDS TRIANG",
     "LE-HEADED ARROW WITH NARROW SHAFTzwRIGHTWARDS TRIANGLE-HEADED ARROW WITH NARROW SHAFTzzDOWNW",
     "ARDS TRIANGLE-HEADED ARROW WITH NARROW SHAFTzyLEFTWARDS TRIANGLE-HEADED ARROW WITH MEDIUM SH",
     "AFTzyUPWARDS TRIANGLE-HEADED ARROW WITH MEDIUM SHAFTzwRIGHTWARDS TRIANGLE-HEADED ARROW WITH ",
     "MEDIUM SHAFTzzDOWNWARDS TRIANGLE-HEADED ARROW WITH MEDIUM SHAFTzyLEFTWARDS TRIANGLE-HEADED A",
     "RROW WITH BOLD SHAFTzwUPWARDS TRIANGLE-HEADED ARROW WITH BOLD SHAFTzuRIGHTWARDS TRIANGLE-HEA",
     "DED ARROW WITH BOLD SHAFTzxDOWNWARDS TRIANGLE-HEADED ARROW WITH BOLD SHAFTzwLEFTWARDS TRIANG",
     "LE-HEADED ARROW WITH HEAVY SHAFTzxUPWARDS TRIANGLE-HEADED ARROW WITH HEAVY SHAFTzvRIGHTWARDS",
     " TRIANGLE-HEADED ARROW WITH HEAVY SHAFTzyDOWNWARDS TRIANGLE-HEADED ARROW WITH HEAVY SHAFTzxL",
     "EFTWARDS TRIANGLE-HEADED ARROW WITH VERY HEAVY SHAFTzzdUPWARDS TRIANGLE-HEADED ARROW WITH VE",
     "RY HEAVY SHAFTzzbRIGHTWARDS TRIANGLE-HEADED ARROW WITH VERY HEAVY SHAFTzzeDOWNWARDS TRIANGLE",
     "-HEADED ARROW WITH VERY HEAVY SHAFTzzdLEFTWARDS FINGER-POST ARROWzcUPWARDS FINGER-POST ARROW",
     "zRIGHTWARDS FINGER-POST ARROWzdDOWNWARDS FINGER-POST ARROWzcLEFTWARDS SQUARED ARROWxUPWARDS ",
     "SQUARED ARROWvRIGHTWARDS SQUARED ARROWyDOWNWARDS SQUARED ARROWxLEFTWARDS COMPRESSED ARROWzbU",
     "PWARDS COMPRESSED ARROWyRIGHTWARDS COMPRESSED ARROWzcDOWNWARDS COMPRESSED ARROWzbLEFTWARDS H",
     "EAVY COMPRESSED ARROWzhUPWARDS HEAVY COMPRESSED ARROWzfRIGHTWARDS HEAVY COMPRESSED ARROWziDO",
     "WNWARDS HEAVY COMPRESSED ARROWzhLEFTWARDS HEAVY ARROWvUPWARDS HEAVY ARROWtRIGHTWARDS HEAVY A",
     "RROWwDOWNWARDS HEAVY ARROW"]⟩,
  ⟨0x1F850, ["LEFTWARDS SANS-SERIF ARROWzbUPWARDS SANS-SERIF ARROWyRIGHTWARDS SANS-SERIF ARROWzcDO",
     "WNWARDS SANS-SERIF ARROWzbNORTH WEST SANS-SERIF ARROWvEAST SANS-SERIF ARROWzcSOUTH EAST SANS",
     "-SERIF ARROWvWEST SANS-SERIF ARROWzcLEFT RIGHT SANS-SERIF ARROWzcUP DOWN SANS-SERIF ARROW"]⟩,
  ⟨0x1F860, ["WIDE-HEADED LEFTWARDS LIGHT BARB ARROWzbUPWARDS LIGHT BARB ARROWyRIGHTWARDS LIGHT BA",
     "RB ARROWzcDOWNWARDS LIGHT BARB ARROWzbNORTH WEST LIGHT BARB ARROWvEAST LIGHT BARB ARROWzcSOU",
     "TH EAST LIGHT BARB ARROWvWEST LIGHT BARB ARROWzcLEFTWARDS BARB ARROWuUPWARDS BARB ARROWsRIGH",
     "TWARDS BARB ARROWvDOWNWARDS BARB ARROWuNORTH WEST BARB ARROWpEAST BARB ARROWvSOUTH EAST BARB",
     " ARROWpWEST BARB ARROWvLEFTWARDS MEDIUM BARB ARROWzcUPWARDS MEDIUM BARB ARROWzRIGHTWARDS MED",
     "IUM BARB ARROWzdDOWNWARDS MEDIUM BARB ARROWzcNORTH WEST MEDIUM BARB ARROWwEAST MEDIUM BARB A",
     "RROWzdSOUTH EAST MEDIUM BARB ARROWwWEST MEDIUM BARB ARROWzdLEFTWARDS HEAVY BARB ARROWzbUPWAR",
     "DS HEAVY BARB ARROWyRIGHTWARDS HEAVY BARB ARROWzcDOWNWARDS HEAVY BARB ARROWzbNORTH WEST HEAV",
     "Y BARB ARROWvEAST HEAVY BARB ARROWzcSOUTH EAST HEAVY BARB ARROWvWEST HEAVY BARB ARROWzcLEFTW",
     "ARDS VERY HEAVY BARB ARROWzgUPWARDS VERY HEAVY BARB ARROWzeRIGHTWARDS VERY HEAVY BARB ARROWz",
     "hDOWNWARDS VERY HEAVY BARB ARROWzgNORTH WEST VERY HEAVY BARB ARROWzbEAST VERY HEAVY BARB ARR",
     "OWzhSOUTH EAST VERY HEAVY BARB ARROWzbWEST VERY HEAVY BARB ARROW"]⟩,
  ⟨0x1F890, ["LEFTWARDS TRIANGLE ARROWHEADzdUPWARDS TRIANGLE ARROWHEADzbRIGHTWARDS TRIANGLE ARROWH",
     "EADzeDOWNWARDS TRIANGLE ARROWHEADzdLEFTWARDS WHITE ARROW WITHIN TRIANGLE ARROWHEADzwUPWARDS ",
     "WHITE ARROW WITHIN TRIANGLE ARROWHEADzuRIGHTWARDS WHITE ARROW WITHIN TRIANGLE ARROWHEADzxDOW",
     "NWARDS WHITE ARROW WITHIN TRIANGLE ARROWHEADzwLEFTWARDS ARROW WITH NOTCHED TAILziUPWARDS ARR",
     "OW WITH NOTCHED TAILzgRIGHTWARDS ARROW WITH NOTCHED TAILzjDOWNWARDS ARROW WITH NOTCHED TAILz",
     "iHEAVY ARROW SHAFT WIDTH ONEdTWO THIRDSkONE HALFeTHIRDziLEFTWARDS BOTTOM-SHADED WHITE ARROWz",
     "kRIGHTWARDS BOTTOM SHADED WHITE ARROWzlLEFTWARDS TOP SHADED WHITE ARROWzhRIGHTWARDS TOP SHAD",
     "ED WHITE ARROWziLEFTWARDS LEFT-SHADED WHITE ARROWziRIGHTWARDS RIGHT-SHADED WHITE ARROWzkLEFT",
     "WARDS RIGHT-SHADED WHITE ARROWzjRIGHTWARDS LEFT-SHADED WHITE ARROWzjLEFTWARDS BACK-TILTED SH",
     "ADOWED WHITE ARROWzrRIGHTWARDS BACK-TILTED SHADOWED WHITE ARROWzsLEFTWARDS FRONT-TILTED SHAD",
     "OWED WHITE ARROWzsRIGHTWARDS FRONT-TILTED SHADOWED WHITE ARROWztWHITE ARROW SHAFT WIDTH ONEd",
     "TWO THIRDS"]⟩,
  ⟨0x1F8B0, ["ARROW POINTING UPWARDS THEN NORTH WESTxRIGHTWARDS THEN CURVING SOUTH WEST"]⟩,
  ⟨0x1F900, ["CIRCLED CROSS FORMEE WITH FOUR DOTSjTWO DOTSpEuLEFT HALF CIRCLE WITH FOUR DOTSjTHREE",
     " DOTSjWO DOTSiDOTkEqDOWNWARD FACING HOOKeNOTCHED HOOKmHOOK WITH DOTnNOTCHED HOOK WITH DOTzmP",
     "INCHED FINGERSpWHITE HEARTlBROWN HEARTlPINCHING HANDnZIPPER-MOUTH FACErMONEY-MOUTH FACEqFACE",
     " WITH THERMOMETERvNERD FACEjTHINKING FACEnFACE WITH HEAD-BANDAGEwROBOT FACEkHUGGING FACEmSIG",
     "N OF THE HORNSrCALL ME HANDmRAISED BACK OF HANDtLEFT-FACING FISTqRIGHT-FACING FISTrHANDSHAKE",
     "f WITH INDEX AND MIDDLE FINGERS CROSSEDzrI LOVE YOU HAND SIGNuFACE WITH COWBOY HATuCLOWN FAC",
     "EkNAUSEATED FACEoROLLING ON THE FLOOR LAUGHINGzeDROOLING FACEnLYING FACEkFACE PALMjSNEEZING ",
     "FACEnFACE WITH ONE EYEBROW RAISEDzdGRINNING FACE WITH STAR EYESjONE LARGE AND ONE SMALL EYEz",
     "vFACE WITH FINGER COVERING CLOSED LIPSzmSERIOUS FACE WITH SYMBOLS COVERING MOUTHzoMILING FAC",
     "E WITH SMILING EYES AND HAND COVERING MOUTHzzeFACE WITH OPEN MOUTH VOMITINGzeSHOCKED FACE WI",
     "TH EXPLODING HEADzhPREGNANT WOMANoBREAST-FEEDINGoPALMS UP TOGETHERrSELFIEgPRINCEgMAN IN TUXE",
     "DOmOTHER CHRISTMASqSHRUGfPERSON DOING CARTWHEELwJUGGLINGiFENCERgMODERN PENTATHLONrWRESTLERSi",
     "ATER POLOkHANDBALLiDIVING MASKlWILTED FLOWERnDRUM WITH DRUMSTICKSuCLINKING GLASSESqTUMBLER G",
     "LASSnSPOONfGOAL NETiRIFLEfFIRST PLACE MEDALrSECOND PLACE MEDALsTHIRD PLACE MEDALrBOXING GLOV",
     "EmMARTIAL ARTS UNIFORMuCURLING STONEnLACROSSE STICK AND BALLxSOFTBALLiFLYING DISClCROISSANTj",
     "AVOCADOhCUCUMBERiBACONfPOTATOgCARROTgBAGUETTE BREADoGREEN SALADlSHALLOW PAN OF FOODsTUFFED F",
     "LATBREADrEGGdGLASS OF MILKnPEANUTShKIWIFRUITjPANCAKESiDUMPLINGiFORTUNE COOKIEoTAKEOUT BOXlCH",
     "OPSTICKSkBOWL WITH SPOONpCUP WITH STRAWnOCONUThBROCCOLIiPIEcRETZELhCUT OF MEATlSANDWICHiCANN",
     "ED FOODlLEAFY GREENlMANGOeOON CAKEjBAGELfSMILING FACE WITH SMILING EYES AND THREE HEARTSzwYA",
     "WNING FACEmSMILING FACE WITH TEARwFACE WITH PARTY HORN AND PARTY HATyUNEVEN EYES AND WAVY MO",
     "UTHzlOVERHEATED FACEpFREEZING FACEnNINJAfDISGUISED FACEoFACE HOLDING BACK TEARSsWITH PLEADIN",
     "G EYESxSARIeLAB COATiGOGGLEShHIKING BOOTlFLAT SHOEjCRABeLION FACEjSCORPIONiTURKEYgUNICORN FA",
     "CEmEAGLEfDUCKeBATdSHARKfOWLdFOX FACEiBUTTERFLYjDEEReGORILLAhLIZARDgRHINOCEROSkSHRIMPfQUIDfGI",
     "RAFFE FACEmZEBRA FACEkHEDGEHOGiSAUROPODiT-REXfCRICKEThKANGAROOiLLAMAfPEACOCKhHIPPOPOTAMUSmPA",
     "RROTgRACCOONhLOBSTERhMOSQUITOhICROBEhBADGERgSWANeMAMMOTHhDODOeSLOTHfOTTEReRANGUTANjSKUNKfFLA",
     "MINGOiOYSTERgBEAVERfISONfSEALeGUIDE DOGjPROBING CANEmEMOJI COMPONENT RED HAIRiCURLY HAIRkBAL",
     "DeWHITE HAIRzbBONEeLEGdFOOTeTOOTHfSUPERHEROeVILLAINlAFETY VESTlEAR WITH HEARING AIDuMOTORIZE",
     "D WHEELCHAIRtANUAL WHEELCHAIRqECHANICAL ARMdLEGoCHEESE WEDGElUPCAKEhSALT SHAKERlBEVERAGE BOX",
     "mGARLICgONIONfFALAFELhWAFFLEgBUTTERgMATE DRINKkICE CUBEiBUBBLE TEAkTROLLfSTANDING PERSONpKNE",
     "ELING PERSONpDEAF PERSONlFACE WITH MONOCLErADULTfCHILDfOLDER ADULTlBEARDED PERSONoPERSON WIT",
     "H HEADSCARFoIN STEAMY ROOMoCLIMBINGiIN LOTUS POSITIONyMAGEeFAIRYfVAMPIREhMERPERSONjELFdGENIE",
     "fZOMBIEgBRAINfORANGE HEARTmBILLED CAPkSCARFfGLOVESgCOATeSOCKSfRED GIFT ENVELOPErFIRECRACKERl",
     "JIGSAW PUZZLE PIECEtTEST TUBEjPETRI DISHkDNA DOUBLE HELIXqCOMPASShABACUSgFIRE EXTINGUISHERrT",
     "OOLBOXhBRICKfMAGNETgLUGGAGEgOTION BOTTLEnSPOOL OF THREADpBALL OF YARNmSAFETY PINkTEDDY BEARk",
     "BROOMeASKETgROLL OF PAPERnBAR OF SOAPlSPONGEgRECEIPThNAZAR AMULETlEUTRAL CHESS KINGeQUEENfRO",
     "OKeBISHOPgKNIGHTgPAWNsWHITE CHESS KNIGHT ROTATED FORTY-FIVE DEGREESzuBLACK CHESS KNIGHT ROTA",
     "TED FORTY-FIVE DEGREESzuNEUTRAL CHESS KNIGHT ROTATED FORTY-FIVE DEGREESzwWHITE CHESS KING RO",
     "TATED NINETY DEGREESzcQUEEN ROTATED NINETY DEGREESzdROOK ROTATED NINETY DEGREESzcBISHOP ROTA",
     "TED NINETY DEGREESzeKNIGHT ROTATED NINETY DEGREESzePAWN ROTATED NINETY DEGREESzoBLACK CHESS ",
     "KING ROTATED NINETY DEGREESzcQUEEN ROTATED NINETY DEGREESzdROOK ROTATED NINETY DEGREESzcBISH",
     "OP ROTATED NINETY DEGREESzeKNIGHT ROTATED NINETY DEGREESzePAWN ROTATED NINETY DEGREESzoNEUTR",
     "AL CHESS KING ROTATED NINETY DEGREESzcQUEEN ROTATED NINETY DEGREESzdROOK ROTATED NINETY DEGR",
     "EESzcBISHOP ROTATED NINETY DEGREESzeKNIGHT ROTATED NINETY DEGREESzePAWN ROTATED NINETY DEGRE",
     "ESzqWHITE CHESS KNIGHT ROTATED ONE HUNDRED THIRTY-FIVE DEGREESzziBLACK CHESS KNIGHT ROTATED ",
     "ONE HUNDRED THIRTY-FIVE DEGREESzziNEUTRAL CHESS KNIGHT ROTATED ONE HUNDRED THIRTY-FIVE DEGRE",
     "ESzzkWHITE CHESS TURNED KINGeQUEENfROOKeBISHOPgKNIGHTgPAWNxBLACK CHESS TURNED KINGeQUEENfROO",
     "KeBISHOPgKNIGHTgPAWNxNEUTRAL CHESS TURNED KINGeQUEENfROOKeBISHOPgKNIGHTgPAWNzWHITE CHESS KNI",
     "GHT ROTATED TWO HUNDRED TWENTY-FIVE DEGREESzziBLACK CHESS KNIGHT ROTATED TWO HUNDRED TWENTY-",
     "FIVE DEGREESzziNEUTRAL CHESS KNIGHT ROTATED TWO HUNDRED TWENTY-FIVE DEGREESzzkWHITE CHESS KI",
     "NG ROTATED TWO HUNDRED SEVENTY DEGREESzpQUEEN ROTATED TWO HUNDRED SEVENTY DEGREESzqROOK ROTA",
     "TED TWO HUNDRED SEVENTY DEGREESzpBISHOP ROTATED TWO HUNDRED SEVENTY DEGREESzrKNIGHT ROTATED ",
     "TWO HUNDRED SEVENTY DEGREESzrPAWN ROTATED TWO HUNDRED SEVENTY DEGREESzzcBLACK CHESS KING ROT",
     "ATED TWO HUNDRED SEVENTY DEGREESzpQUEEN ROTATED TWO HUNDRED SEVENTY DEGREESzqROOK ROTATED TW",
     "O HUNDRED SEVENTY DEGREESzpBISHOP ROTATED TWO HUNDRED SEVENTY DEGREESzrKNIGHT ROTATED TWO HU",
     "NDRED SEVENTY DEGREESzrPAWN ROTATED TWO HUNDRED SEVENTY DEGREESzzcNEUTRAL CHESS KING ROTATED",
     " TWO HUNDRED SEVENTY DEGREESzpQUEEN ROTATED TWO HUNDRED SEVENTY DEGREESzqROOK ROTATED TWO HU",
     "NDRED SEVENTY DEGREESzpBISHOP ROTATED TWO HUNDRED SEVENTY DEGREESzrKNIGHT ROTATED TWO HUNDRE",
     "D SEVENTY DEGREESzrPAWN ROTATED TWO HUNDRED SEVENTY DEGREESzzeWHITE CHESS KNIGHT ROTATED THR",
     "EE HUNDRED FIFTEEN DEGREESzzgBLACK CHESS KNIGHT ROTATED THREE HUNDRED FIFTEEN DEGREESzzgNEUT",
     "RAL CHESS KNIGHT ROTATED THREE HUNDRED FIFTEEN DEGREESzziWHITE CHESS EQUIHOPPERwBLACK CHESS ",
     "EQUIHOPPERwNEUTRAL CHESS EQUIHOPPERyWHITE CHESS EQUIHOPPER ROTATED NINETY DEGREESzuBLACK CHE",
     "SS EQUIHOPPER ROTATED NINETY DEGREESzuNEUTRAL CHESS EQUIHOPPER ROTATED NINETY DEGREESzwWHITE",
     " CHESS KNIGHT-QUEENfROOKeBISHOPzBLACK CHESS KNIGHT-QUEENfROOKeBISHOP"]⟩,
  ⟨0x1FA60, ["XIANGQI RED GENERALhMANDARINiELEPHANTiHORSEfCHARIOTgANNONgSOLDIERlBLACK GENERALhMAND",
     "ARINiELEPHANTiHORSEfCHARIOTgANNONgSOLDIER"]⟩,
  ⟨0x1FA70, ["BALLET SHOESmONE-PIECE SWIMSUITsBRIEFSgSHORTSgTHONG SANDAL"]⟩,
  ⟨0x1FA78, ["DROP OF BLOODnADHESIVE BANDAGEqSTETHOSCOPElX-RAYfCRUTCH"]⟩,
  ⟨0x1FA80, ["YO-YOfKITEePARACHUTEjBOOMERANGjMAGIC WANDkPINATAgNESTING DOLLS"]⟩,
  ⟨0x1FA90, ["RINGED PLANETnCHAIRfRAZORfAXEdDIYA LAMPjBANJOfMILITARY HELMETpACCORDIONjLONG DRUMjCO",
     "INdARPENTRY SAWnSCREWDRIVERlLADDERgHOOKeMIRRORgWINDOWgPLUNGERhSEWING NEEDLEnKNOTeBUCKETgMOUS",
     "E TRAPkTOOTHBRUSHkHEADSTONEjPLACARDhROCKeMIRROR BALLlIDENTIFICATION CARDtLOW BATTERYlHAMSA"]⟩,
  ⟨0x1FAB0, ["FLYdWORMeBEETLEgCOCKROACHjPOTTED PLANTmWOODeFEATHERhLOTUSfCORALfEMPTY NESTkNEST WITH",
     " EGGS"]⟩,
  ⟨0x1FAC0, ["ANATOMICAL HEARTqLUNGSfPEOPLE HUGGINGnREGNANT MANdPERSONoERSON WITH CROWN"]⟩,
  ⟨0x1FAD0, ["BLUEBERRIESkELL PEPPERlOLIVEfFLATBREADjTAMALEgFONDUEgTEAPOTgPOURING LIQUIDoBEANSfJAR"]⟩,
  ⟨0x1FAE0, ["MELTING FACEmSALUTING FACEnFACE WITH OPEN EYES AND HAND OVER MOUTHzePEEKING EYElDIAG",
     "ONAL MOUTHyDOTTED LINE FACEqBITING LIPjUBBLES"]⟩,
  ⟨0x1FAF0, ["HAND WITH INDEX FINGER AND THUMB CROSSEDzpRIGHTWARDS HANDpLEFTWARDS HANDoPALM DOWN H",
     "ANDjUP HANDmINDEX POINTING AT THE VIEWERzdHEART HANDS"]⟩,
  ⟨0x1FB00, ["BLOCK SEXTANT-1b2b12c3b13c23c123d4b14c24c124d34c134d234d1234e5b15c25c125d35c235d1235",
     "e45c145d245d1245e345d1345e2345e12345f6b16c26c126d36c136d236d1236e46c146c246e346d1346e2346e12",
     "346f56c156d256d1256e356d1356e2356e12356f456d1456e2456e12456f3456e13456f23456tLOWER LEFT BLOC",
     "K DIAGONAL LOWER MIDDLE LEFT TO LOWER CENTREgRIGHTzhUPPER MIDDLE LEFT TO LOWER CENTREgRIGHTz",
     "bLEFT TO LOWER CENTREzvRIGHT BLOCK DIAGONAL UPPER MIDDLE LEFT TO UPPER CENTREgRIGHTzhLOWER M",
     "IDDLE LEFT TO UPPER CENTREgRIGHTzbLEFT TO UPPER CENTREuMIDDLE LEFT TO UPPER MIDDLE RIGHTziCE",
     "NTRE TO LOWER MIDDLE RIGHTzdLEFT TO LOWER MIDDLE RIGHTzbCENTRE TO UPPER MIDDLE RIGHTzdLEFT T",
     "O UPPER MIDDLE RIGHTzbCENTRE TO UPPER RIGHTzxLEFT BLOCK DIAGONAL UPPER CENTRE TO UPPER MIDDL",
     "E RIGHTzdLEFT TO UPPER MIDDLE RIGHTzbCENTRE TO LOWER MIDDLE RIGHTzdLEFT TO LOWER MIDDLE RIGH",
     "TzbCENTRE TO LOWER RIGHTvMIDDLE LEFT TO LOWER MIDDLE RIGHTzzpUPPER RIGHT BLOCK DIAGONAL LOWE",
     "R MIDDLE LEFT TO LOWER CENTREgRIGHTzhUPPER MIDDLE LEFT TO LOWER CENTREgRIGHTzbLEFT TO LOWER ",
     "CENTREzwLEFT BLOCK DIAGONAL UPPER MIDDLE LEFT TO UPPER CENTREgRIGHTzhLOWER MIDDLE LEFT TO UP",
     "PER CENTREgRIGHTzbLEFT TO UPPER CENTREuMIDDLE LEFT TO UPPER MIDDLE RIGHTziCENTRE TO LOWER MI",
     "DDLE RIGHTzdLEFT TO LOWER MIDDLE RIGHTzbCENTRE TO UPPER MIDDLE RIGHTzdLEFT TO UPPER MIDDLE R",
     "IGHTzbCENTRE TO UPPER RIGHTzwRIGHT BLOCK DIAGONAL UPPER CENTRE TO UPPER MIDDLE RIGHTzdLEFT T",
     "O UPPER MIDDLE RIGHTzbCENTRE TO LOWER MIDDLE RIGHTzdLEFT TO LOWER MIDDLE RIGHTzbCENTRE TO LO",
     "WER RIGHTvMIDDLE LEFT TO LOWER MIDDLE RIGHTzzkAND RIGHT AND LOWER TRIANGULAR THREE QUARTERS ",
     "BLOCKzzhLEFT AND LOWER AND RIGHT TRIANGULAR THREE QUARTERS BLOCKzzgUPPER AND LEFT AND LOWER ",
     "TRIANGULAR THREE QUARTERS BLOCKzzgLEFT AND UPPER AND RIGHT TRIANGULAR THREE QUARTERS BLOCKzz",
     "bTRIANGULAR ONE QUARTER BLOCKziUPPER TRIANGULAR ONE QUARTER BLOCKzjRIGHT TRIANGULAR ONE QUAR",
     "TER BLOCKzjLOWER TRIANGULAR ONE QUARTER BLOCKzjVERTICAL ONE EIGHTH BLOCK-2b3b4b5b6b7zcHORIZO",
     "NTAL ONE EIGHTH BLOCK-2b3b4b5b6b7zeLEFT AND LOWER ONE EIGHTH BLOCKwUPPER ONE EIGHTH BLOCKzgR",
     "IGHT AND UPPER ONE EIGHTH BLOCKwLOWER ONE EIGHTH BLOCKzhUPPER AND LOWER ONE EIGHTH BLOCKzhHO",
     "RIZONTAL ONE EIGHTH BLOCK-1358zhUPPER ONE QUARTER BLOCKrTHREE EIGHTHS BLOCKtFIVE EIGHTHS BLO",
     "CKsTHREE QUARTERS BLOCKuSEVEN EIGHTHS BLOCKzRIGHT ONE QUARTER BLOCKrTHREE EIGHTHS BLOCKtFIVE",
     " EIGHTHS BLOCKsTHREE QUARTERS BLOCKuSEVEN EIGHTHS BLOCKzLEFT HALF MEDIUM SHADEwRIGHT HALF ME",
     "DIUM SHADExUPPER HALF MEDIUM SHADExLOWER HALF MEDIUM SHADExINVERSE MEDIUM SHADEuUPPER HALF B",
     "LOCK AND LOWER HALF INVERSE MEDIUM SHADEzqINVERSE MEDIUM SHADE AND LOWER HALF BLOCK"]⟩,
  ⟨0x1FB94, ["LEFT HALF INVERSE MEDIUM SHADE AND RIGHT HALF BLOCKzzbCHECKER BOARD FILLsINVERSE CHE",
     "CKER BOARD FILLzbHEAVY HORIZONTAL FILLvUPPER LEFT TO LOWER RIGHT FILLyRIGHT TO LOWER LEFT FI",
     "LLyAND LOWER TRIANGULAR HALF BLOCKzmLEFT AND RIGHT TRIANGULAR HALF BLOCKzlUPPER LEFT TRIANGU",
     "LAR MEDIUM SHADEzdRIGHT TRIANGULAR MEDIUM SHADEzkLOWER RIGHT TRIANGULAR MEDIUM SHADEzeLEFT T",
     "RIANGULAR MEDIUM SHADEzjBOX DRAWINGS LIGHT DIAGONAL UPPER CENTRE TO MIDDLE LEFTeRIGHTzdMIDDL",
     "E LEFT TO LOWER CENTREuRIGHT TO LOWER CENTREzdUPPER CENTRE TO MIDDLE LEFT TO LOWER CENTREuRI",
     "GHT TO LOWER CENTREztMIDDLE LEFT TO LOWER CENTRE TO MIDDLE RIGHTzdUPPER CENTRE TO MIDDLE RIG",
     "HTzsUPPER CENTRE TO MIDDLE LEFT AND MIDDLE RIGHT TO LOWER CENTREzmRIGHT AND MIDDLE LEFT TO L",
     "OWER CENTREzgTO LOWER CENTRE TO MIDDLE LEFTzlLEFT TO LOWER CENTRE TO MIDDLE RIGHTzzjMIDDLE L",
     "EFT TO UPPER CENTRE TO MIDDLE RIGHT TO LOWER CENTREzzcRIGHT TO UPPER CENTRE TO MIDDLE LEFT T",
     "O LOWER CENTREzzjDIAMONDqHORIZONTAL WITH VERTICAL STROKEzzARROWHEAD-SHAPED POINTERyINVERSE C",
     "HECK MARKsLEFT HALF RUNNING MANvRIGHT HALF RUNNING MANwINVERSE DOWNWARDS ARROW WITH TIP LEFT",
     "WARDSzrLEFTWARDS ARROW AND UPPER AND LOWER ONE EIGHTH BLOCKzzcRIGHTWARDS ARROW AND UPPER AND",
     " LOWER ONE EIGHTH BLOCKzzdDOWNWARDS ARROW AND RIGHT ONE EIGHTH BLOCKzrUPWARDS ARROW AND RIGH",
     "T ONE EIGHTH BLOCKzpLEFT HALF FOLDERqRIGHT HALF FOLDERrVOIDED GREEK CROSSsRIGHT OPEN SQUARED",
     " DOTwNEGATIVE DIAGONAL CROSSfMIDDLE RIGHT TO LOWER CENTREzdDIAMONDzWHITE HEAVY SALTIRE WITH ",
     "ROUNDED CORNERSzpLEFT THIRD WHITE RIGHT POINTING INDEXzmMIDDLE THIRD WHITE RIGHT POINTING IN",
     "DEXzoRIGHT THIRD WHITE RIGHT POINTING INDEXznNEGATIVE SQUARED QUESTION MARKzfSTICK FIGUREa W",
     "ITH ARMS RAISEDqLEANING LEFTeRIGHTnWITH DRESSxWHITE UP-POINTING CHEVRON"]⟩,
  ⟨0x1FBF0, ["SEGMENTED DIGIT ZEROeONEdTWOcHREEfFOURdIVEeSIXcEVENfEIGHTfNINE"]⟩,
  ⟨0xE0001, ["LANGUAGE TAG"]⟩,
  ⟨0xE0020, ["TAG SPACEfEXCLAMATION MARKqQUOTATION MARKoNUMBER SIGNlDOLLAR SIGNlPERCENT SIGNmAMPER",
     "SANDiPOSTROPHEkLEFT PARENTHESISqRIGHT PARENTHESISrASTERISKiPLUS SIGNjCOMMAfHYPHEN-MINUSmFULL",
     " STOPjSOLIDUShDIGIT ZEROeONEdTWOcHREEfFOURdIVEeSIXcEVENfEIGHTfNINEkCOLONfSEMICOLONjLESS-THAN",
     " SIGNoEQUALS SIGNlGREATER-THAN SIGNrQUESTION MARKnCOMMERCIAL ATnLATIN CAPITAL LETTER AbBbCbD",
     "bEbFbGbHbIbJbKbLbMbNbObPbQbRbSbTbUbVbWbXbYbZvEFT SQUARE BRACKETtREVERSE SOLIDUSoIGHT SQUARE ",
     "BRACKETuCIRCUMFLEX ACCENTrLOW LINEiGRAVE ACCENTmLATIN SMALL LETTER AbBbCbDbEbFbGbHbIbJbKbLbM",
     "bNbObPbQbRbSbTbUbVbWbXbYbZtEFT CURLY BRACKETsVERTICAL LINEnRIGHT CURLY BRACKETtTILDEjCANCEL ",
     "TAG"]⟩,
  ⟨0xE0100, ["VARIATION SELECTOR-17b8b9c20b1b2b3b4b5b6b7b8b9c30b1b2b3b4b5b6b7b8b9c40b1b2b3b4b5b6b7",
     "b8b9c50b1b2b3b4b5b6b7b8b9c60b1b2b3b4b5b6b7b8b9c70b1b2b3b4b5b6b7b8b9c80b1b2b3b4b5b6b7b8b9c90b",
     "1b2b3b4b5b6b7b8b9c100b1b2b3b4b5b6b7b8b9c10b1b2b3b4b5b6b7b8b9c20b1b2b3b4b5b6b7b8b9c30b1b2b3b4",
     "b5b6b7b8b9c40b1b2b3b4b5b6b7b8b9c50b1b2b3b4b5b6b7b8b9c60b1b2b3b4b5b6b7b8b9c70b1b2b3b4b5b6b7b8",
     "b9c80b1b2b3b4b5b6b7b8b9c90b1b2b3b4b5b6b7b8b9d200b1b2b3b4b5b6b7b8b9c10b1b2b3b4b5b6b7b8b9c20b1",
     "b2b3b4b5b6b7b8b9c30b1b2b3b4b5b6b7b8b9c40b1b2b3b4b5b6b7b8b9c50b1b2b3b4b5b6"]⟩]

end ModalHighlight.Text
