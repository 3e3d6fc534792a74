/-!
# Names in ancient scripts

The names of the characters from `U+10000` to `U+1AFFF`, those with computed names aside, in the
short form that `CharacterName.search` reads (Unicode 14).
-/

namespace ProposalCheck.Text.CharacterName

/-- The names in scripts that are ancient or little used. -/
def ancientNames : List String := [
  "@10000@aLINEAR B _B008 Ae38 Ee28 Ie61 Oe10 Ue01 DAf45 DEf07 DIf14 DOf51 DUe7 JAf46 JE@1000d@f3",
  "6 JOf65 JUf77 KAf44 KEf67 KIf70 KOf81 KUe0 MAf13 MEf73 MIf15 MOf23 MUf06 NAf24 NEf30 NIf52 NOe",
  "5 NUf03 PAf72 PEf39 PIf11 POf50 PUf16 QAf78 QEf21 QIf32 QO@10028@f60 RAf27 REf53 RIf02 ROf26 R",
  "Uf31 SAf09 SEf41 SIf12 SOf58 SUe9 TAf04 TEf37 TIf05 TOf69 TUf54 WAf75 WEf40 WIe2 WO@1003c@f17 ",
  "ZAf74 ZE@1003f@f20 ZOe5 A2f43 A3f85 AUf71 DWEg90 DWOg48 NWAg29 PU2g62 PTEg76 RA2g33 RA3g68 RO2",
  "f6 TA2g87 TWEg91 TWO@10050@pMBOL B018b9c22c34c47b9c56c63b4c79c82b3b6b9@10080@lIDEOGRAM B100 MA",
  "Nf2 WOMANh4 DEERg5 EQUIDgF MAREgM STALLIONl6F EWEfM RAMg7F SHE-GOATkM HE-GOATk8F SOWfM BOARh9F",
  " COWfM BULLi20 WHEATh1 BARLEYi2 OLIVEh3 SPICEh5 CYPERUSvMONOGRAM B127 KAPOg8 KANAKOuIDEOGRAM B",
  "130 OILf1 WINEg2nMONOGRAM B133 AREPAh5 MERIsIDEOGRAM B140 BRONZEi1 GOLDg2b5 WOOLg6c50b1 HORNg2",
  "b3b4nMONOGRAM B156 TURO2tIDEOGRAM B157b8b9 CLOTHi60b1b2 GARMENTj3 ARMOURi4b5b6b7b8b9c70b1b2b3 ",
  "MONTHh4b6 TREEg7b8b9c80b1b2b3b4b5b9c90b1 HELMETk220 FOOTSTOOLl5 BATHTUBk30 SPEARh1 ^h2b3 SWORD",
  "h4b6c40 WHEELED CHARIOTr1 CHARIOTj2 CHARIOT FRAMEp3 WHEELh5b6nMONOGRAM B247 DIPTEtIDEOGRAM B24",
  "8b9c51b2b3b4 DARTg5b6b7b8b9eVESSEL B155d200b1b2b3b4b5b6b7b8b9c10b1b2b3b4b5b6b7b8b9c21b2b6b7b8b",
  "9c50d305@10100@zeAEGEAN WORD SEPARATOR LINEeDOTsCHECK?@10107@kNUMBER ONEdTWOcHREEfFOURdIVEeSIX",
  "cEVENfEIGHTfNINEeTENcWENTYfHIRTYgFORTYeIFTYfSIXTYeEVENTYhEIGHTYgNINETYgONE HUNDREDlTWO HUNDRED",
  "kHREE HUNDREDnFOUR HUNDREDlIVE HUNDREDmSIX HUNDREDkEVEN HUNDREDnEIGHT HUNDREDnNINE HUNDREDmONE",
  " THOUSANDmTWO THOUSANDlHREE THOUSANDoFOUR THOUSANDmIVE THOUSANDnSIX THOUSANDlEVEN THOUSANDoEIG",
  "HT THOUSANDoNINE THOUSANDnTEN THOUSANDlWENTY THOUSANDoHIRTY THOUSANDpFORTY THOUSANDnIFTY THOUS",
  "ANDoSIXTY THOUSANDnEVENTY THOUSANDqEIGHTY THOUSANDpNINETY THOUSAND@10137@wWEIGHT BASE UNITjFIR",
  "ST SUBUNITnSECOND SUBUNIToTHIRD SUBUNITnFOURTH SUBUNITvDRY MEASURE FIRST SUBUNITzaLIQUID MEASU",
  "RE FIRST SUBUNITzdMEASURE SECOND SUBUNIToTHIRD SUBUNITzdGREEK ACROPHONIC ATTIC ONE QUARTERhHAL",
  "FeDRACHMAlFIVEcFTYdVE HUNDREDhTHOUSANDlFTY THOUSANDmVE TALENTSmTEN TALENTSlFIFTY TALENTSnONE H",
  "UNDRED TALENTStFIVE HUNDRED TALENTSuONE THOUSAND TALENTSuFIVE THOUSAND TALENTSqSTATERSmTEN STA",
  "TERSlFIFTY STATERSnONE HUNDRED STATERStFIVE HUNDRED STATERSuONE THOUSAND STATERSuTEN THOUSAND ",
  "STATERSuFIFTY THOUSAND STATERSwTEN MNASoHERAEUM ONE PLETHRONuTHESPIAN ONEmHERMIONIAN ONEoEPIDA",
  "UREAN TWOoTHESPIAN TWOmCYRENAIC TWO DRACHMASvEPIDAUREAN TWO DRACHMASxTROEZENIAN FIVEeTENa ALTE",
  "RNATE*zeHERMIONIAN TENoMESSENIAN TENnTHESPIAN TENcHIRTYoROEZENIAN FIFTYa ALTERNATE*zgHERMIONIA",
  "N FIFTYqTHESPIAN FIFTYfONE HUNDREDlTHREE HUNDREDwEPIDAUREAN FIVE HUNDREDxTROEZENIAN FIVE HUNDR",
  "EDwHESPIAN FIVE HUNDREDvCARYSTIAN FIVE HUNDREDwNAXIAN FIVE HUNDREDtTHESPIAN ONE THOUSANDmFIVE ",
  "THOUSANDwDELPHIC FIVE MNASrSTRATIAN FIFTY MNASzfONE HALF.a ALTERNATE*zdTWO THIRDS.oHREE QUARTE",
  "RS.tYEAR.jTALENT.lDRACHMA.mOBOL.jTWO OBOLS.nHREE OBOLS.qFOUR OBOLS.oIVE OBOLS.pMETRETES.nKYATH",
  "OS BASE.rLITRA.kOUNKIA.lXESTES.lARTABE.jOURA.lGRAMMA.lTRYBLION BASE.sZERO.jONE QUARTER.qSINUSO",
  "ID.nINDICTION.uNOMISMA.@10190@mROMAN SEXTANS.mUNCIA.kSEMUNCIA.lXTULA.mDIMIDIA SEXTULA.uSILIQUA",
  ".mDENARIUS.nQUINARIUS.oSESTERTIUS.pDUPONDIUS.oAS.hCENTURIAL.uASCIA SYMBOL@101a0@mGREEK ~TAU RH",
  "O@101d0@uPHAISTOS DISC. PEDESTRIANjLUMED HEADlTATTOOED HEADnCAPTIVEgHILDfWOMANfHELMETgGAUNTLET",
  "iTIARAf^fBOWdSHIELDgCLUBeMANACLESgTTOCKhSAWdLIDdBOOMERANGjCARPENTRY PLANEpDOLIUMgCOMBeSLINGfCO",
  "LUMNgBEEHIVEhSHIPeHORNdIDEeBULLS LEGjCATdRAMdEAGLEfDOVEeTUNNYfBEEdPLANE TREEkVINEePAPYRUShROSE",
  "TTEhLILYeOX BACKhFLUTEfGRATERgSTRAINERhMALL AXEjWAVY BANDjCOMBINING OBLIQUE STROKE@10280@zsLYC",
  "IAN !AbEbBaHcGbDbIbWbZbTHcJbKbQbLbMbNbMMcNNcUbPbKKcRbSbTaTcANcENcHbX@102a0@pCARIAN !AbP2cDbLbU",
  "UUdRbLDcA2cQbBbMbObD2cTbSHa2cbC-18eUbNNcXbNbTT2dPbSScIbEbUUUUeKa2cNDcUUcGa2cSTa2dNGcIIcC-39eTT",
  "cUUU2eRRcMBa2b3b4dLD2dE2cUUU3@102e0@rOPTIC EPACT THOUSANDS?oDIGIT ONEdTWOcHREEfFOURdIVEeSIXcEV",
  "ENfEIGHTfNINEkNUMBER TENcWENTYfHIRTYgFORTYeIFTYfSIXTYeEVENTYhEIGHTYgNINETYgONE HUNDREDlTWO HUN",
  "DREDkHREE HUNDREDnFOUR HUNDREDlIVE HUNDREDmSIX HUNDREDkEVEN HUNDREDnEIGHT HUNDREDnNINE HUNDRED",
  "@10300@zhOLD ITALIC !AbBEcKEcDEcEbVEcZEcHEcTHEdIbKAcELbMbNbSHdObPEcSHEdKUcERbScTEcUbEKSdPHEdKH",
  "EdEFbRSdCHEdIIcUUcESSkNUMERAL ONEdFIVEeTENdFIFTY@1032d@n!YEcNORTHERN TSEmSOUTHERN TSEzfGOTHIC ",
  "!AHSAeBAIRKANhGIBAeDAGSeAIHVUSgQAIRTHRAiIUJAeHAGLeTHIUTHgEISdKUSMAfLAGUSfMANNAfNAUTHSgJERdURUS",
  "ePAIRTHRAiNINETYgRAIDAfSAUILfTEIWSfWINJAfFAIHUfIGGWSfHWAIRfOTHALfNINE HUNDRED@10350@zbOLD PERM",
  "IC !ANcBURdGAIdDOIdEbZHOIeDZHOIfZATAeDZITAfIbKOKEeLEIdMENOEfNENOEfVOOIePEEIeREIdSIIdTAIdUbCHER",
  "YfSHOOIdCHOOIhYRYcERUeOaOcEFcHAcTSIUeVERdYERaIdATdIEcYUbAcIAuCOMBINING OLD PERMIC !ANcDOIdZATA",
  "eNENOEfSII@10380@zgUGARITIC !ALPAeBETAeGAMLAfKHAdDELTAfHOcWOcZETAeHOTAeTETdYODdKAFdSHINeLAMDAf",
  "MEMdDHALeNUNdZUcSAMKAfAINdPUcSADEeQOPAeRASHAfTHANNAgGHAINfTOcIbUbSSU@1039f@kWORD DIVIDERvOLD P",
  "ERSIAN. AbIbUbKAbUcGAbUcXAcCAcJAbIcTAbUcDAbIbUcTHAdPAcBAcFAcNAbUcMAbIbUcYAcVAbIcRAbUcLAcSAcZAc",
  "SHAcSAdHA@103c8@cAURAMAZDAAa-2cHAmXSHAAYATHIYAmDAHYAAUSHa-2lBAGAdUUMISHmWORD DIVIDERmNUMBER ON",
  "EdTWOcENcWENTYgHUNDRED@10400@zbDESERET $!LONG IbEbAaHcOaOhSHORT IbEbAaHcOaOiAYcOWcWUcYEEdHbPEE",
  "dBEEdTEEdDEEdCHEEeJEEdKAYdGAYdEFcVEEdETHdTHEEeEScZEEdESHdZHEEeERbLbMbNaGdOIcEWr%!LONG IbEbAaHc",
  "OaOhSHORT IbEbAaHcOaOiAYcOWcWUcYEEdHbPEEdBEEdTEEdDEEdCHEEeJEEdKAYdGAYdEFcVEEdETHdTHEEeEScZEEdE",
  "SHdZHEEeERbLbMbNaGdOIcEWxSHAVIAN !PEEPeTOTdKICKeFEEdTHIGHfSObUREeCHURCHgYEAdHUNGeBIBdDEADeGAGd",
  "VOWdTHEYeZOOdMEASUREhJUDGEfWOEdHA-HAfLOLLeMIMEeIFcEGGdASHcDOdONcWOOLeOUTdAHcROAReNUNdEATdAGEdI",
  "CEdUPcOAKcOZEdILdAWEcREdORcAIRdERRdARRAYfEARdIANdYEWsOSMANYA !ALEFeBAcTAcJAcXAcKHAdDEELeRAcSAb",
  "HIINfDHAdCAYNeGAcFAcQAAFeKAAFeLAANeMIINeNUUNeWAWdHAcYAcAbEbIbObUbAAcEEcOO@104a0@jDIGIT ZEROeON",
  "EdTWOcHREEfFOURdIVEeSIXcEVENfEIGHTfNINE@104b0@qAGE $!AaIaNcHcBRAdCHAdEHCHAeaINdHAbYAdIbKAcEHKA",
  "eKYAdLAcMAcNAcOaINdPAcEHPAeSAbHAdTAcEHTAeTSAdEHTSAfTSHAeDHAdUbWAcKHAdGHAdZAbHA@104d8@s%!AaIaNc",
  "HcBRAdCHAdEHCHAeaINdHAbYAdIbKAcEHKAeKYAdLAcMAcNAcOaINdPAcEHPAeSAbHAdTAcEHTAeTSAdEHTSAfTSHAeDHA",
  "dUbWAcKHAdGHAdZAbHA@10500@wELBASAN !AbBEcCEbHEdDEcNDEdDHEdEIbbFEcGEbJEdHEcIbJEcKEcLEbLEdMEcNEb",
  "AbJEdObPEcQEcREbREdSEbHEdTEbHEdUbVEcXEcYbZEbHEdGHEbAMMAgKHE@10530@sCAUCASIAN ALBANIAN !ALTdBET",
  "dGIMdDATdEBcZARLeEYNdZHILeTASdCHAdYOWDeZHAdIRBdSHAdLANdINYAeXEYNeDYANeCARdJHOXeKARdLYITeHEYTeQ",
  "AYdAORdCHOYcIcYAYeMAQdQARdNOWCeDZYAYfSHAKeJAYNeONcTYAYeFAMdDZAYeCHATePENdGHEYSfRATdSEYKeVEYZeT",
  "IWReSHOYeIWNdCYAWdAYNeYAYDePIWReKIW@1056f@kCITATION?zhVITHKUQI $!AbBBEcEcCEbHEdDEbHEdEIbbFEcGA",
  "@1057c@cHAbHAdIaJEdJEcKAcLAbLAdMEcNEbJEdObPEcQAcRE@1058c@cSEbHEdTEbHEdUbVEcXE@10594@cYbZE@1059",
  "7@r%!AbBBEcEcCEbHEdDEbHEdEIbbFEcGA@105a3@cHAbHAdIaJEdJEcKAcLAbLAdMEcNEbJEdObPEcQAcRE@105b3@cSE",
  "bHEdTEbHEdUbVEcXE@105bb@cYbZE@10600@yLINEAR A. AB001b2b3b4b5b6b7b8b9c10b1b3b6b7c20b1aFbMc2aFbM",
  "c3aMc4b6b7b8e028BeB029c30b1b4b7b8b9c40b1b4b5b6b7b8b9c50b1b3b4b5b6b7b8b9c60b1b5b6b7b9c70b3b4b6b",
  "7b8b9c80b1b2b5b6b7e100-102hB118c20e120BeB122b3c31AbBf131CeB164c71c80b8c91e301b2b3b4b5b6b7b8b9A",
  "bBbCd10b1b2b3AbBbCc4b5b6b7b8b9c20b1b2b3b4b5b6b7b8b9c30b1b2b3b4b5b6b7b8b9c40b1b2b3b4b5b6b7b8b9c",
  "50b1b2b3b4b5b6b7b8b9c60b1b2b3b4b5b6b7b8b9c70b1d400-VASf1-VASf2-VASf3-VASf4-VASf5-VASf6-VASf7-V",
  "ASf8-VASf9-VASg10-VASf1-VASf2-VASf3-VASf4-VASf5-VASf6-VASf7-VASf8-VASh501b2b3b4b5b6b8b9c10b1b2",
  "b3b5b6c20b1b3b4b5b6b7b8b9c30b1b2b4b5b6b7b8b9c40b1b2b5b7b8b9c50b1b2b3b4b5b6b7b9c63b4b5b6b8b9c70",
  "b1b2b3b4b5b6b7b8b9c80b1b2b3b4b5b6b7b8b9c91b2b4b5b6b8d600b1b2b3b4b6b8b9c10b1b2b3b4b5b6b7b8b9c20",
  "b1b2b3b4b6b7b8b9c34b7b8c40b2b3b4b5b6b8b9c51b2b3b4b5b6b7b8b9c60b1b2b3b4@10740@d701 Ad2 Bd3 Dd4 ",
  "Ed5 Fd6 Hd7 Jd8 Kd9 Lc-2 L2e3 L3e4 L4e6 L6h10 Wd1 Xd2 Yd3 OMEGAh4 ABBf5 BBe7 DDf26 EYYYh32 JE@",
  "10760@g800b1b2b3b4b5b6b7@10780@sMODIFIER !%$AApUPERSCRIPT TRIANGULAR COLONqHALF TRIANGULAR COL",
  "ONzhMALL AEc$BjB#HOOK@10787@lDZ DIGRAPHa#RETROFLEX HOOKoCURLtEZH DIGRAPHl#TAILeHOOKa&TAILuREVE",
  "RSED EkCLOSED REVERSED OPEN EwFENG DIGRAPHmRAMS HORNj$GjG#HOOKl$G#HOOKtH#STROKEn$HjHENG#HOOKoD",
  "OTLESS J#STROKE&HOOKzfLS DIGRAPHjZ DIGRAPHj#BELTl$L#BELTtL#RETROFLEX HOOK&BELTzeEZHa#RETROFLEX",
  " HOOKyTURNED Ya#BELTsO#STROKEn$OEjLOSED OMEGAmQbTURNED R#LONG LEGa&RETROFLEX HOOKzqR#TAILeFISH",
  "HOOKp$RjTC DIGRAPH#CURLtS DIGRAPHa#RETROFLEX HOOKzeESH DIGRAPHl#RETROFLEX HOOKvV#]HOOK@107b2@r",
  "$YpGLOTTAL STOP#STROKEyREVERSED GLOTTAL STOP#STROKEziBILABIAL CLICKoDENTAL CLICKmLATERAL CLICK",
  "nALVEOLAR CLICKoRETROFLEX CLICK#RETROFLEX HOOKzk%S#CURL@10800@ziCYPRIOT _AbEbIbObUbJA@10808@bO",
  "@1080a@cKAbEbIbObUcLAbEbIbObUcMAbEbIbObUcNAbEbIbObUcPAbEbIbObUcRAbEbIbObUcSAbEbIbObUcTAbEbIbOb",
  "UcWAbEbIbO@10837@cXAbE@1083c@cZA@1083f@bOtIMPERIAL ARAMAIC !ALEPHfBETHeGIMELfDALETHgHEcWAWdZAY",
  "INfHETHeTETHeYODHeKAPHeLAMEDHgMEMdNUNdSAMEKHgAYINePEcSADHEfQOPHeRESHeSHINeTAW@10857@kSECTION.m",
  "NUMBER ONEdTWOcHREEeENcWENTYgONE HUNDREDhTHOUSANDmTEN THOUSANDzlPALMYRENE !ALEPHfBETHeGIMELfDA",
  "LETHgHEcWAWdZAYINfHETHeTETHeYODHeKAPHeLAMEDHgMEMdFINAL NUNjNUNdSAMEKHgAYINePEcSADHEfQOPHeRESHe",
  "SHINeTAWiFT-POINTING FLEURONvRIGHT-POINTING FLEURONwNUMBER ONEdTWOcHREEfFOURdIVEeTENcWENTYxNAB",
  "ATAEAN !FINAL ALEPHlALEPHfFINAL BETHkBETHeGIMELfDALETHgFINAL HEiHEcWAWdZAYINfHETHeTETHeFINAL Y",
  "ODHkYODHeFINAL KAPHkKAPHeFINAL LAMEDHmLAMEDHgFINAL MEMjMEMdFINAL NUNjNUNdSAMEKHgAYINePEcSADHEf",
  "QOPHeRESHeFINAL SHINkSHINeTAW@108a7@kNUMBER ONEdTWOcHREEfFOURlCRUCIFORM NUMBER FOURvNUMBER FIV",
  "EeTENcWENTYgONE HUNDRED@108e0@zdHATRAN !ALEPHfBETHeGIMELfDALETH-RESHlHEcWAWdZAYNeHETHeTETHeYOD",
  "HeKAPHeLAMEDHgMEMdNUNdSAMEKHgAYNdPEcSADHEfQOPH@108f4@eSHINeTAW@108fb@kNUMBER ONEdFIVEeTENcWENT",
  "YgONE HUNDREDzaPHOENICIAN !ALFdBETdGAMLeDELTeHEcWAUdZAIdHETdTETdYODdKAFdLAMDeMEMdNUNdSEMKeAINd",
  "PEcSADEeQOFdROSHeSHINeTAUkNUMBER ONEdTENcWENTYgONE HUNDREDlTWOcHREE@1091f@mWORD SEPARATORzaLYD",
  "IAN !AbBbGbDbEbVbIbYbKbLbMbNbObRbSScTbUbFbQbSbTTcANcENcLYcNNcC@1093f@iTRIANGULAR?@10980@wMEROI",
  "TIC HIEROGLYPHIC !AbEbIbObYAcWAcBAa-2ePAcMAcNAa-2dEa-2eRAa-2eLAcKHAdHHAdSAa-2dEcKAcQAcTAa-2dEa",
  "-2dOcDAj~VIDJa-2zbCURSIVE !AbEbIbObYAcWAcBAcPAcMAcNAbEcRAcLAcKHAdHHAdSAcARCHAIC SAkSEcKAcQAcTA",
  "bEbOcDA@109bc@jFRACTION ELEVEN TWELFTHSpONE HALFrLOGOGRAM RMTdIMNmNUMBER ONEdTWOcHREEfFOURdIVE",
  "eSIXcEVENfEIGHTfNINEeTENcWENTYfHIRTYgFORTYeIFTYfSIXTYeEVENTY@109d2@hONE HUNDREDlTWO HUNDREDkHR",
  "EE HUNDREDnFOUR HUNDREDlIVE HUNDREDmSIX HUNDREDkEVEN HUNDREDnEIGHT HUNDREDnNINE HUNDREDmONE TH",
  "OUSANDmTWO THOUSANDlHREE THOUSANDoFOUR THOUSANDmIVE THOUSANDnSIX THOUSANDlEVEN THOUSANDoEIGHT ",
  "THOUSANDoNINE THOUSANDnTEN THOUSANDlWENTY THOUSANDoHIRTY THOUSANDpFORTY THOUSANDnIFTY THOUSAND",
  "oSIXTY THOUSANDnEVENTY THOUSANDqEIGHTY THOUSANDpNINETY THOUSANDpONE HUNDRED THOUSANDuTWO HUNDR",
  "ED THOUSANDtHREE HUNDRED THOUSANDwFOUR HUNDRED THOUSANDuIVE HUNDRED THOUSANDvSIX HUNDRED THOUS",
  "ANDtEVEN HUNDRED THOUSANDwEIGHT HUNDRED THOUSANDwNINE HUNDRED THOUSANDzdFRACTION ONE TWELFTHlT",
  "WO TWELFTHSlHREE TWELFTHSoFOUR TWELFTHSmIVE TWELFTHSnSIX TWELFTHSlEVEN TWELFTHSoEIGHT TWELFTHS",
  "oNINE TWELFTHSnTEN TWELFTHSznKHAROSHTHI !AiVOWEL. IbUbVOCALIC R@10a05@jEbO@10a0c@gLENGTH?rSIGN",
  " :RING,rANUSVARAiVISARGAm!KAbHAdGAbHA@10a15@dCAbHAdJA@10a19@cNYAdTTAbHAeDDAbHAeNNAdTAbHAdDAbHA",
  "dNAcPAbHAdBAbHAdMAcYAcRAcLAcVAcSHAcSAcAcZAcHAcKKAdTTTHAcAeVHA@10a38@kSIGN BAR+jCAUDAfDOT,@10a3",
  "f@oVIRAMAgDIGIT ONEdTWOcHREEfFOURkNUMBER TENcWENTYgONE HUNDREDhTHOUSANDtFRACTION ONE HALF@10a5",
  "0@rPUNCTUATION DOTd%CIRCLEmCIRCLEfRESCENT BARmMANGALAMiLOTUSfDANDAeOUBLE DANDAmLINES@10a60@zdO",
  "LD SOUTH ARABIAN !HEcLAMEDHgHETHeMEMdQOPHeWAWdSHINeRESHeBETHeTAWdSATdKAPHeNUNdKHETHfSADHEdMEKH",
  "gFEcALEFdYNdDHADHEgGIMELfDALETHgGHAYNfTETHeZAYNeDHALETHhYODHeTHAWcETHmNUMBER ONEdFIFTYjERIC IN",
  "DICATORzgNORTH ARABIAN !HEHdLAMdHAHdMEEMeQAFdWAWdES-2eREHdBEHdTEHdES-1eKAFdNOONeKHAHeSADdES-3e",
  "FEHdALEFdINdDADdGEEMeDALdGHAINfTAHdZAINeTHALeYEHdTHEHeZAHkNUMBER ONEdTENcWENTY@10ac0@zgMANICHA",
  "EAN !ALEPHfBETHdHETHfGIMELeHIMELgDALETHgHEcWAWkSIGN UDh!ZAYINeHAYINgJAYINeHAYINgHETHeTETHeYODH",
  "eKAPHeXAPHeKHAPHfLAMEDHgDHAMEDHhTHAMEDHhMEMdNUNdSAMEKHgAYINdAYINfPEcFEcSADHEfQOPHeXOPHeQHOPHfR",
  "ESHeSHINdSHINfTAWkABBREVIATION?+fBELOW@10aeb@xNUMBER ONEdFIVEeTENcWENTYgONE HUNDREDsPUNCTUATIO",
  "N STAReFLEURONh:DOT WITHIN DOTtT WITHIN DOTldTWO DOTSiLINE FILLER@10b00@zjAVESTAN !AaAbObAOcNb",
  "ANcEaEdEaEcOaOcIaIcUaUcKEcXEbYEcVEdGEbGEcHEdCEcJEcTEbHEdDEbHEdTTEdPEcFEcBEbHEdNGEbYEcVEdEbYEcN",
  "EdMEcHMEdYYEcEcVEcREcLEcSEcZEcSHEdZHEdSHYEdSHEeHE@10b39@jABBREVIATION?zaTINY TWO DOTS OVER ONE",
  " DOT PUNCTUATIONzn%TWO DOTS OVER ONE DOT PUNCTUATIONzoLARGE TWO DOTS OVER ONE DOT PUNCTUATIONz",
  "iONE DOT OVER TWO DOTS PUNCTUATIONziTWO RINGS OVER ONE RING PUNCTUATIONzkONE RING OVER TWO RIN",
  "GS PUNCTUATIONzqINSCRIPTIONAL PARTHIAN !ALEPHfBETHeGIMELfDALETHgHEcWAWdZAYINfHETHeTETHeYODHeKA",
  "PHeLAMEDHgMEMdNUNdSAMEKHgAYINePEcSADHEfQOPHeRESHeSHINeTAW@10b58@kNUMBER ONEdTWOcHREEfFOUReTENc",
  "WENTYgONE HUNDREDhTHOUSANDzbHLAVI !ALEPHfBETHeGIMELfDALETHgHEcWAW-AYIN-RESHnZAYINfHETHeTETHeYO",
  "DHeKAPHeLAMEDHgMEM-QOPHiNUNdSAMEKHgPEcSADHEeHINeTAW@10b78@kNUMBER ONEdTWOcHREEfFOUReTENcWENTYg",
  "ONE HUNDREDhTHOUSANDzqPSALTER PAHLAVI !ALEPHfBETHeGIMELfDALETHgHEcWAW-AYIN-RESHnZAYINfHETHeYOD",
  "HeKAPHeLAMEDHgMEM-QOPHiNUNdSAMEKHgPEcSADHEeHINeTAW@10b99@kSECTION?mTURNED SECTION?tFOUR DOTS#C",
  "ROSSfDOT@10ba9@sNUMBER ONEdTWOcHREEfFOUReTENcWENTYgONE HUNDRED@10c00@zjOLD TURKIC !ORKHON AiYE",
  "NISEI AaEkORKHON IiYENISEI IbEjORKHON OaEjYENISEI OEkORKHON ABjYENISEI ABkORKHON AEBkYENISEI A",
  "EBlORKHON AGjYENISEI AGkORKHON AEGkYENISEI AEGlORKHON ADjYENISEI ADkORKHON AEDdEZjYENISEI EZkO",
  "RKHON AYjYENISEI AYkORKHON AEYkYENISEI AEYlORKHON AEKkYENISEI AEKlORKHON OEKkYENISEI OEKlORKHO",
  "N ALjYENISEI ALkORKHON AELdELTcMcANbENkYENISEI AENlORKHON ENTkYENISEI ENTlORKHON ENCkYENISEI E",
  "NClORKHON ENYkYENISEI ENYdANGlORKHON ENGkYENISEI AENGmORKHON EPcOPcICcECjYENISEI ECkORKHON AQj",
  "YENISEI AQkORKHON IQjYENISEI IQkORKHON OQjYENISEI OQkORKHON ARjYENISEI ARkORKHON AERcSbEScSHkY",
  "ENISEI ASHlORKHON ESHkYENISEI ESHlORKHON ATjYENISEI ATkORKHON AETkYENISEI AETlORKHON OTcBASH@1",
  "0c80@zaHUNGARIAN $!AaAcEBcAMBdECbNCcCScDcANDdEbCLOSE EhEEbFbGaYcHcIaIcEJbKcAKcUNKdELaYcMbNaYdO",
  "aOcNIKOLSBURG OEnRUDIMENTA OEmOEEdEPbMPcRcSHORT ERiESaZcTbNTcTYcCHdUaUcNIKOLSBURG UEnRUDIMENTA",
  " UEmEVbZaScNT-SHAPED.pUS@10cc0@r%!AaAcEBcAMBdECbNCcCScDcANDdEbCLOSE EhEEbFbGaYcHcIaIcEJbKcAKcU",
  "NKdELaYcMbNaYdOaOcNIKOLSBURG OEnRUDIMENTA OEmOEEdEPbMPcRcSHORT ERiESaZcTbNTcTYcCHdUaUcNIKOLSBU",
  "RG UEnRUDIMENTA UEmEVbZaScNT-SHAPED.pUS@10cfa@pNUMBER ONEdFIVEeTENdFIFTYfONE HUNDREDhTHOUSANDz",
  "iHANIFI ROHINGYA !AbBAcPAcTAbTAdJAcCAcHAcKHAdFAcDAbDAdRAbRAdZAcSAbHAdKAcGAcLAcMAcNAcWAcKINNA W",
  "AiYAcKINNA YAiNGAcYAdVAjVOWEL AbIbUbEbOhMARK SAKINfNA KHONNAoSIGN HARBAHAYiTAHALAeNAcSSI@10d30",
  "@kDIGIT ZEROeONEdTWOcHREEfFOURdIVEeSIXcEVENfEIGHTfNINE@10e60@zbRUMI DIGIT ONEdTWOcHREEfFOURdIV",
  "EeSIXcEVENfEIGHTfNINEkNUMBER TENcWENTYfHIRTYgFORTYeIFTYfSIXTYeEVENTYhEIGHTYgNINETYgONE HUNDRED",
  "lTWO HUNDREDkHREE HUNDREDnFOUR HUNDREDlIVE HUNDREDmSIX HUNDREDkEVEN HUNDREDnEIGHT HUNDREDnNINE",
  " HUNDREDtFRACTION ONE HALFeQUARTERhTHIRDjTWO THIRDS@10e80@yYEZIDI !ELIFeBEcPEbHEdTHEdSEcCIMcHI",
  "McHIMfHHAdXAcDALdZALdRAbHAdZAcJAcSINcHINdADdDADdTAcZEcEYNdXHEYNfFAcVAa ALTERNATE*rQAFdKAFcHAFe",
  "GAFdLAMdMIMdNUNdUMcWAWdOWcEWcHAYdYOTdET@10eab@jCOMBINING HAMZA?kMADDA?uHYPHENATION?@10eb0@q!LA",
  "M#DOT+sYOT#CIRCUMFLEX+@10f00@zoOLD SOGDIAN !ALEPHfFINAL ALEPHlBETHeFINAL BETHkGIMELfHEcFINAL H",
  "EiWAWdZAYINfHETHeYODHeKAPHeLAMEDHgMEMdNUNdFINAL NUNa#|TAILzdSAMEKHgAYINdLTERNATE AYINoPEcSADHE",
  "fFINAL SADHEa#|TAILzfRESH-AYIN-DALETHqSHINeTAWdFINAL TAWa#|TAILzkNUMBER ONEdTWOcHREEfFOURdIVEe",
  "TENcWENTYfHIRTYgONE HUNDREDsFRACTION ONE HALFrLIGATURE AYIN-DALETH@10f30@zhSOGDIAN !ALEPHfBETH",
  "eGIMELfHEcWAWdZAYINfHETHeYODHeKAPHeLAMEDHgMEMdNUNdSAMEKHgAYINePEcSADHEfRESH-AYINjSHINeTAWdFETH",
  "eLESHlINDEPENDENT SHINqCOMBINING DOT,jTWO DOTS,oDOT+jTWO DOTS+oCURVE+fBELOWlHOOK+fBELOWkLONG H",
  "OOK,pRESH,kSTROKE,wNUMBER ONEdTENcWENTYgONE HUNDREDsPUNCTUATION TWO |BARSa#DOTSzcCIRCLE#DOTpTW",
  "O CIRCLES#DOTSvHALF CIRCLE#DOT@10f70@zpOLD UYGHUR !ALEPHfBETHeGIMEL-HETHkWAWdZAYINfFINAL HETHk",
  "YODHeKAPHeLAMEDHgMEMdNUNdSAMEKHgPEcSADHEfRESHeSHINeTAWdLESHlCOMBINING DOT+fBELOWjTWO DOTS+fBEL",
  "OWyPUNCTUATION BARdTWO BARSeDOTSiFOUR DOTS@10fb0@zhCHORASMIAN !ALEPHf%ALEPHlBETHeGIMELfDALETHg",
  "HEcWAWdCURLED WAWkZAYINfHETHeYODHeKAPHeLAMEDHgMEMdNUNdSAMEKHgAYINePEcRESHeSHINeTAWkNUMBER ONEd",
  "TWOcHREEfFOUReTENcWENTYgONE HUNDRED@10fe0@zeELYMAIC !ALEPHfBETHeGIMELfDALETHgHEcWAWdZAYINfHETH",
  "eTETHeYODHeKAPHeLAMEDHgMEMdNUNdSAMEKHgAYINePEcSADHEfQOPHeRESHeSHINeTAWjIGATURE ZAYIN-YODH@1100",
  "0@zcBRAHMI. CANDRABINDUlANUSVARAiVISARGAhJIHVAMULIYAlUPADHMANIYAq!AaAcIaIcUaUcVOCALIC RaRcLaLk",
  "EbAIcObAUcKAbHAdGAbHAdNGAdCAbHAdJAbHAdNYAdTTAbHAeDDAbHAeNNAdTAbHAdDAbHAdNAcPAbHAdBAbHAdMAcYAcR",
  "AcLAcVAcSHAcSAcAcHAcLLAdOLD TAMIL LLLAeRRAdNNNAvVOWEL. AAcBHATTIPROLU AAoIaIcUaUcVOCALIC RaRcL",
  "aLkEbAIcObAUmIRAMAgDANDAeOUBLE DANDAmPUNCTUATION DOTbUBLE DOTkLINEeCRESCENT BARmLOTUS@11052@rN",
  "UMBER ONEdTWOcHREEfFOURdIVEeSIXcEVENfEIGHTfNINEeTENcWENTYfHIRTYgFORTYeIFTYfSIXTYeEVENTYhEIGHTY",
  "gNINETYgONE HUNDREDhTHOUSANDtDIGIT ZEROeONEdTWOcHREEfFOURdIVEeSIXcEVENfEIGHTfNINEkSIGN OLD TAM",
  "IL VIRAMAv!OLD TAMIL SHORT EbOyVOWEL. OLD TAMIL SHORT EbOzd!OLD TAMIL LLA@1107f@uNUMBER JOINER",
  "uKAITHI. CANDRABINDUlANUSVARAiVISARGAm!AaAcIaIcUaUcEbAIcObAUcKAbHAdGAbHAdNGAdCAbHAdJAbHAdNYAdT",
  "TAbHAeDDAbDHAdHAeRHAdNNAdTAbHAdDAbHAdNAcPAbHAdBAbHAdMAcYAcRAcLAcVAcSHAcSAcAcHAjVOWEL. AAcIaIcU",
  "aUcEbAIcObAUnSIGN VIRAMAgNUKTAkABBREVIATION.rENUMERATION.qNUMBER.lSECTION?m:SECTION?sANDAeOUBL",
  "E DANDAmVOWEL. VOCALIC R@110cd@uNUMBER.+@110d0@ySORA SOMPENG !SAHdTAHdBAHdCAHdDAHdGAHdMAHdNGAH",
  "eLAHdNAHdVAHdPAHdYAHdRAHdHAHdKAHdJAHdNYAHeAHcEEHdIHcUHcOHcEHcMAE@110f0@kDIGIT ZEROeONEdTWOcHRE",
  "EfFOURdIVEeSIXcEVENfEIGHTfNINE@11100@xCHAKMA. CANDRABINDUlANUSVARAiVISARGAm!AAcIbUbEbKAAcHAAeG",
  "AAcHAAeNGAAeCAAcHAAeJAAcHAAeNYAAeTTAAcHAAfDDAAcHAAfNNAAeTAAcHAAeDAAcHAAeNAAdPAAcHAAeBAAcHAAeMA",
  "AdYYAAdAAdRAAdLAAdWAAdSAAdHAAkVOWEL. AbIaIcUaUcEbAIcObAUcOInO?gAU?hVIRAMAgMAAYYAA@11136@hDIGIT",
  " ZEROeONEdTWOcHREEfFOURdIVEeSIXcEVENfEIGHTfNINEkSECTION?mDANDAeOUBLE DANDAmQUESTION?n!LHAAlVOW",
  "EL. AAcEIn!VAA@11150@rMAHAJANI !AbIbUbEbObKAbHAdGAbHAdCAbHAdJAbHAdNYAdTTAbHAeDDAbHAeNNAdTAbHAd",
  "DAbHAdNAcPAbHAdBAbHAdMAcRAcLAcVAcSAcHAcRRAkSIGN NUKTAkABBREVIATION.rSECTION?mLIGATURE SHRI@111",
  "80@wSHARADA. CANDRABINDUlANUSVARAiVISARGAm!AaAcIaIcUaUcVOCALIC RaRcLaLkEbAIcObAUcKAbHAdGAbHAdN",
  "GAdCAbHAdJAbHAdNYAdTTAbHAeDDAbHAeNNAdTAbHAdDAbHAdNAcPAbHAdBAbHAdMAcYAcRAcLAbLAdVAcSHAcSAcAcHAj",
  "VOWEL. AAcIaIcUaUcVOCALIC RaRcLaLkEbAIcObAUnSIGN VIRAMAgAVAGRAHAiJIHVAMULIYAlUPADHMANIYAqOMcDA",
  "NDAeOUBLE DANDAmABBREVIATION.rSEPARATORiANDHI?kIGN NUKTAkVOWEL MODIFIER?tEXTRA SHORT VOWEL?wSU",
  "TRA?kVOWEL. PRISHTHAMATRA EzbSIGN INVERTED CANDRABINDUzaDIGIT ZEROeONEdTWOcHREEfFOURdIVEeSIXcE",
  "VENfEIGHTfNINEkEKAMeSIGN SIDDHAMmHEADSTROKEkCONTINUATION.rSECTION?-1b2@111e1@vINHALA ARCHAIC D",
  "IGIT ONEdTWOcHREEfFOURdIVEeSIXcEVENfEIGHTfNINEkNUMBER TENcWENTYfHIRTYgFORTYeIFTYfSIXTYeEVENTYh",
  "EIGHTYgNINETYgONE HUNDREDhTHOUSAND@11200@zkKHOJKI !AaAcIbUbEbAIcObAUcKAbHAdGAbGAcHAdNGAdCAbHAd",
  "JAbJA@11213@dNYAdTTAbHAeDDAbHAeNNAdTAbHAdDAbDDAdHAdNAcPAbHAdBAbBAcHAdMAcYAcRAcLAcVAcSAcHAcLLAk",
  "VOWEL. AAcIaIcUbEbAIcObAUnSIGN ANUSVARAiVIRAMAgNUKTAfSHADDAlDANDAeOUBLE DANDAmWORD SEPARATORoS",
  "ECTION?m:SECTION?tABBREVIATION.rSIGN SUKUN@11280@rMULTANI !AbIbUbEbKAbHAdGA@11288@bHA@1128a@dC",
  "AbHAdJAbJA@1128f@dNYAdTTAbHAeDDAbDAcHAeNNAdTAbHAdDAbHAdNAcPAbHAdBA@1129f@bHAdMAcYAcRAcLAcVAcSA",
  "cHAcRRAcHAkSECTION?@112b0@uKHUDAWADI !AaAcIaIcUaUcEbAIcObAUcKAbHAdGAbGAcHAdNGAdCAbHAdJAbJAcHAd",
  "NYAdTTAbHAeDDAbDAeRRAdDDHAeNNAdTAbHAdDAbHAdNAcPAbHAdBAbBAcHAdMAcYAcRAcLAcVAcSHAcAcHAjSIGN ANUS",
  "VARAnVOWEL. AAcIaIcUaUcEbAIcObAUnSIGN NUKTAfVIRAMA@112f0@lDIGIT ZEROeONEdTWOcHREEfFOURdIVEeSIX",
  "cEVENfEIGHTfNINE@11300@uGRANTHA. COMBINING ANUSVARA+xANDRABINDUlANUSVARAiVISARGA@11305@m!AaAcI",
  "aIcUaUcVOCALIC RbL@1130f@jEEcAI@11313@cOOcAUcKAbHAdGAbHAdNGAdCAbHAdJAbHAdNYAdTTAbHAeDDAbHAeNNA",
  "dTAbHAdDAbHAdNA@1132a@cPAbHAdBAbHAdMAcYAcRA@11332@cLAbLA@11335@dVAcSHAcSAcAcHA@1133b@rCOMBININ",
  "G BINDU,vGRANTHA. NUKTAfAVAGRAHAnVOWEL. AAcIaIcUaUcVOCALIC RaR@11347@kEEcAI@1134b@cOOcAUnSIGN ",
  "VIRAMA@11350@lOM@11357@cAU LENGTH?@1135d@oSIGN PLUTAk!VEDIC ANUSVARAi:ANUSVARAuOCALIC RRcLLrVO",
  "WEL. VOCALIC LaL@11366@zeCOMBINING GRANTHA DIGIT ZEROeONEdTWOcHREEfFOURdIVEeSIX@11370@j!AbKAcN",
  "AcVIcPA@11400@zcNEWA !AaAcIaIcUaUcVOCALIC RaRcLaLkEbAIcObAUcKAbHAdGAbHAdNGAbHAeCAbHAdJAbHAdNYA",
  "bHAeTTAbHAeDDAbHAeNNAdTAbHAdDAbHAdNAbHAdPAbHAdBAbHAdMAbHAdYAcRAbHAdLAbHAdWAcSHAcSAcAcHAjVOWEL.",
  " AAcIaIcUaUcVOCALIC RaRcLaLkEbAIcObAUnSIGN VIRAMAgCANDRABINDUlANUSVARAiVISARGAhNUKTAfAVAGRAHAi",
  "FINAL ANUSVARAtOMcSIDDHIgDANDAeOUBLE DANDAmCOMMAfGAP FILLERkABBREVIATION.rDIGIT ZEROeONEdTWOcH",
  "REEfFOURdIVEeSIXcEVENfEIGHTfNINEjOUBLE COMMAmPLACEHOLDER?@1145d@qINSERTION.oSANDHI?l!VEDIC ANU",
  "SVARAvSIGN JIHVAMULIYAlUPADHMANIYA@11480@vTIRHUTA ANJIe!AaAcIaIcUaUcVOCALIC RaRcLaLkEbAIcObAUc",
  "KAbHAdGAbHAdNGAdCAbHAdJAbHAdNYAdTTAbHAeDDAbHAeNNAdTAbHAdDAbHAdNAcPAbHAdBAbHAdMAcYAcRAcLAcVAcSH",
  "AcSAcAcHAjVOWEL. AAcIaIcUaUcVOCALIC RaRcLaLkEbSHORT EhAIcObSHORT OhAUnSIGN CANDRABINDUlANUSVAR",
  "AiVISARGAfRAMAgNUKTAfAVAGRAHAnGVANGfABBREVIATION.rOM@114d0@cDIGIT ZEROeONEdTWOcHREEfFOURdIVEeS",
  "IXcEVENfEIGHTfNINE@11580@sSIDDHAM !AaAcIaIcUaUcVOCALIC RaRcLaLkEbAIcObAUcKAbHAdGAbHAdNGAdCAbHA",
  "dJAbHAdNYAdTTAbHAeDDAbHAeNNAdTAbHAdDAbHAdNAcPAbHAdBAbHAdMAcYAcRAcLAcVAcSHAcSAcAcHAjVOWEL. AAcI",
  "aIcUaUcVOCALIC RaR@115b8@kEbAIcObAUnSIGN CANDRABINDUlANUSVARAiVISARGAfRAMAgNUKTAfSIDDHAMmDANDA",
  "eOUBLE DANDAmSEPARATOR DOTdBARnREPETITION?-1b2b3rEND OF TEXT?qSECTION?#TRIDENT&U-SHAPED ORNAME",
  "NTSsDOTTED CRESCENTSzdRAYS&DOTTED CRESCENTSj:CRESCENTSqTRIPLE CRESCENTSzm:RINGa#RAYSvWITH :CRE",
  "SCENTSqTRIPLE CRESCENTSqQUADRUPLE CRESCENTStSEPTUPLE CRESCENTSsCIRCLES&RAYSeTWO ENCLOSURESoFOU",
  "R ENCLOSURESzu!THREE-CIRCLE ALTERNATE IxWO-CIRCLE ALTERNATE IaIxALTERNATE UsVOWEL. ALTERNATE U",
  "aU@11600@zgMODI !AaAcIaIcUaUcVOCALIC RaRcLaLkEbAIcObAUcKAbHAdGAbHAdNGAdCAbHAdJAbHAdNYAdTTAbHAe",
  "DDAbHAeNNAdTAbHAdDAbHAdNAcPAbHAdBAbHAdMAcYAcRAcLAcVAcSHAcSAcAcHAcLLAkVOWEL. AAcIaIcUaUcVOCALIC",
  " RaRcLaLkEbAIcObAUnSIGN ANUSVARAiVISARGAfRAMAgARDHACANDRAqDANDAeOUBLE DANDAmABBREVIATION.rSIGN",
  " HUVA@11650@jDIGIT ZEROeONEdTWOcHREEfFOURdIVEeSIXcEVENfEIGHTfNINE@11660@nNGOLIAN BIRGA#ORNAMEN",
  "TtROTATED BIRGAn:BIRGA#ORNAMENTzbTRIPLE BIRGA#ORNAMENTzbBIRGA#:ORNAMENTzbROTATED BIRGA#ORNAMEN",
  "Ti:ORNAMENTzjINVERTED BIRGAa#:ORNAMENTzkSWIRL BIRGAa#ORNAMENTi:ORNAMENTzhTURNED SWIRL BIRGA#:O",
  "RNAMENT@11680@zyTAKRI !AaAcIaIcUaUcEbAIcObAUcKAbHAdGAbHAdNGAdCAbHAdJAbHAdNYAdTTAbHAeDDAbHAeNNA",
  "dTAbHAdDAbHAdNAcPAbHAdBAbHAdMAcYAcRAcLAcVAcSHAcAcHAcRRAkSIGN ANUSVARAiVISARGAmVOWEL. AAcIaIcUa",
  "UcEbAIcObAUnSIGN VIRAMAgNUKTAk!ARCHAIC KHAsABBREVIATION.@116c0@rDIGIT ZEROeONEdTWOcHREEfFOURdI",
  "VEeSIXcEVENfEIGHTfNINE@11700@qAHOM !KAbHAdNGAcAcTAcALTERNATE TAmPAbHAdBAcMAcJAcCHAdTHAdRAcLAcS",
  "AcNYAdHAcAbDAbHAdGAcALTERNATE GAmGHAdBHAdJHAdALTERNATE BA@1171d@tCONSONANT. MEDIAL LAcRAcLIGAT",
  "ING RAziVOWEL. AaAcIaIcUaUcEbAWcObAIbMnSIGN KILLER@11730@lDIGIT ZEROeONEdTWOcHREEfFOURdIVEeSIX",
  "cEVENfEIGHTfNINEkNUMBER TENcWENTYnSIGN %SECTIONmECTIONhRULAIjYMBOL VIj!CAcTTAbHAeDDAbHAeNNAdLL",
  "A@11800@pDOGRA !AaAcIaIcUaUcEbAIcObAUcKAbHAdGAbHAdNGAdCAbHAdJAbHAdNYAdTTAbHAeDDAbHAeNNAdTAbHAd",
  "DAbHAdNAcPAbHAdBAbHAdMAcYAcRAcLAcVAcSHAcSAcAcHAcRRAkVOWEL. AAcIaIcUaUcVOCALIC RaRkEbAIcObAUnSI",
  "GN ANUSVARAiVISARGAfRAMAgNUKTAkABBREVIATION.@118a0@xWARANG CITI $!NGAAeAbWIcYUbAbOcIIcUUcEbObA",
  "NGdGAcKOcENYdYUJdUCcENNdODDdTTEdNUNGeDAcATbMcBUcPUcHIYOdOLOcRRdARdSSUUdIIdVIYOt%!NGAAeAbWIcYUb",
  "AbOcIIcUUcEbObANGdGAcKOcENYdYUJdUCcENNdODDdTTEdNUNGeDAcATbMcBUcPUcHIYOdOLOcRRdARdSSUUdIIdVIYOr",
  "DIGIT ZEROeONEdTWOcHREEfFOURdIVEeSIXcEVENfEIGHTfNINEkNUMBER TENcWENTYfHIRTYgFORTYeIFTYfSIXTYeE",
  "VENTYhEIGHTYgNINETY@118ff@nOMoDIVES AKURU !AaAcIaIcUaUcE@11909@bO@1190c@bKAbHAdGAbHAdNGAdCAbHA",
  "dJA@11915@cNYAdTTA@11918@dDDAbHAeNNAdTAbHAdDAbHAdNAcPAbHAdBAbHAdMAcYAbYAdRAcLAcVAcSHAcSAcAcHAc",
  "LLAdZAjVOWEL. AAcIaIcUaUcE@11937@bAIcO@1193b@mSIGN ANUSVARAiCANDRABINDUlHALANTAmVIRAMAgPREFIXE",
  "D NASAL.tMEDIAL YAjINITIAL RAkMEDIAL RAjSIGN NUKTAk:DANDAmGAP FILLERkEND OF TEXT?@11950@qDIGIT",
  " ZEROeONEdTWOcHREEfFOURdIVEeSIXcEVENfEIGHTfNINE@119a0@wNANDINAGARI !AaAcIaIcUaUcVOCALIC RaR@11",
  "9aa@kEbAIcObAUcKAbHAdGAbHAdNGAdCAbHAdJAbHAdNYAdTTAbHAeDDAbHAeNNAdTAbHAdDAbHAdNAcPAbHAdBAbHAdMA",
  "cYAcRAcLAcVAcSHAcSAcAcHAcLLAdRRAkVOWEL. AAcIaIcUaUcVOCALIC RaR@119da@kEbAIcObAUnSIGN ANUSVARAi",
  "VISARGAfRAMAgAVAGRAHAiSIDDHAMmHEADSTROKEkVOWEL. PRISHTHAMATRA E@11a00@znZANABAZAR SQUARE !AiVO",
  "WEL. IbUEbbEbOEbbAIbUcREVERSED IpLENGTH?r!KAbHAdGAbHAdNGAdCAbHAdJAcNYAdTTAbHAeDDAbHAeNNAdTAbHA",
  "dDAbHAdNAcPAbHAdBAbHAdMAcTSAbHAeDZAbHAeZHAcAc-AcYAcRAcLAcVAcSHAcSAcAcHAcKSSAlFINAL CONSONANT?u",
  "SIGN VIRAMAgCANDRABINDUa#ORNAMENTt#ORNAMENTuANUSVARAiVISARGAmCLUSTER-INITIAL !RArFINAL !YAcRAc",
  "LAcVAxINITIAL HEAD?rCLOSING HEAD?rMARK TSHEGfSHADe:SHADlLONG TSHEGpINITIAL DOUBLE-LINED HEAD?z",
  "fCLOSING DOUBLE-LINED HEAD?zfSUBJOINER@11a50@zbSOYOMBO !AiVOWEL. IbUEbbEbOaEcAIbUcVOCALIC RbLo",
  "LENGTH?r!KAbHAdGAbHAdNGAdCAbHAdJAbHAdNYAdTTAbHAeDDAbHAeNNAdTAbHAdDAbHAdNAcPAbHAdBAbHAdMAcTSAbH",
  "AeDZAdZHAcAc-AcYAcRAcLAcVAcSHAcSAcAcHAcKSSAlSIGN JIHVAMULIYAlUPADHMANIYAqCLUSTER-INITIAL !RAcL",
  "AcSHAcAzaFINAL CONSONANT. GbKbNGcDbNbBbMbRbLbSHbb-AxSIGN ANUSVARAiVISARGAmGEMINATION?pSUBJOINE",
  "RjMARK TSHEGfSHADe:SHADlPLUTAkHEAD?#MOON&SUN&TRIPLE FLAMEmFLAMEkzcTERMINAL?-1b2@11ab0@xCANADIA",
  "N SYLLABICS NATTILIK HIaIcOaOcAaAdSHRIaIcOaOcAaAoSPEbIbObAwPAU CIN HAU !PAcKAcLAcMAcDAcZAcVAcN",
  "GAdHAcGAcKHAdSAcBAcCAcTAbHAdNAcPHAdRAcFAcCHAdAbEbIbObUaAcIAcFINAL PbKbTbMbNbLbWbNGcYoRISING TO",
  "NE LONGflSANDHI GLOTTAL STOPtRISING TONE LONG FINALkFINALrSANDHI GLOTTAL STOP FINALsTONE LONGf",
  "a LONG FINALkFINALrMID-LEVEL TONEoGLOTTAL STOP VARIANTuMID-LEVEL TONE LONG FINALkFINALuLOW-FAL",
  "LING TONE LONGfqGLOTTAL STOPmLOW-FALLING TONE LONG FINALkFINALwGLOTTAL STOP FINAL@11c00@zfBHAI",
  "KSUKI !AaAcIaIcUaUcVOCALIC RaRcL@11c0a@jEbAIcObAUcKAbHAdGAbHAdNGAdCAbHAdJAbHAdNYAdTTAbHAeDDAbH",
  "AeNNAdTAbHAdDAbHAdNAcPAbHAdBAbHAdMAcYAcRAcLAcVAcSHAcSAcAcHAjVOWEL. AAcIaIcUaUcVOCALIC RaRcL@11",
  "c38@jEbAIcObAUnSIGN CANDRABINDUlANUSVARAiVISARGAfRAMAgAVAGRAHAnDANDAeOUBLE DANDAmWORD SEPARATO",
  "RoGAP FILLER-1b2@11c50@mDIGIT ZEROeONEdTWOcHREEfFOURdIVEeSIXcEVENfEIGHTfNINEkNUMBER ONEdTWOcHR",
  "EEfFOURdIVEeSIXcEVENfEIGHTfNINEeTENcWENTYfHIRTYgFORTYeIFTYfSIXTYeEVENTYhEIGHTYgNINETYnHUNDREDS",
  " UNIT?@11c70@zdMARCHEN HEAD?jMARK SHADj!KAbHAdGAcNGAdCAbHAdJAcNYAdTAbHAdDAcNAcPAbHAdBAcMAcTSAb",
  "HAeDZAdWAcZHAcAc-AcYAcRAcLAcSHAcAcHAcA@11c92@iSUBJOINED !KAbHAdGAcNGAdCAbHAdJAcNYAdTAbHAdDAcNA",
  "cPAbHAdBAcMAcTSAbHAeDZAdWAcZHAcA@11ca9@cYAcRAcLAcSHAcAcHAcAsVOWEL. AAcIbUbEbOmSIGN ANUSVARAiCA",
  "NDRABINDU@11d00@wSARAM GONDI !AaAcIaIcUaUcE@11d08@bAIcO@11d0b@bAUcKAbHAdGAbHAdNGAdCAbHAdJAbHAd",
  "NYAdTTAbHAeDDAbHAeNNAdTAbHAdDAbHAdNAcPAbHAdBAbHAdMAcYAcRAcLAcVAcSHAcSAcAcHAcLLAdKSSAeJNYAeTRAk",
  "VOWEL. AAcIaIcUaUcVOCALIC R@11d3a@jE@11d3c@bAIcO@11d3f@bAUnSIGN ANUSVARAiVISARGAhNUKTAfCANDRAg",
  "HALANTAmVIRAMAgREPHAeA-KARA@11d50@hDIGIT ZEROeONEdTWOcHREEfFOURdIVEeSIXcEVENfEIGHTfNINE@11d60@",
  "yGUNJALA GONDI !AaAcIaIcUaU@11d67@cEEcAI@11d6a@cOOcAUcYAcVAcBAbHAdMAcKAbHAdTAbHAdLAcGAbHAdDAbH",
  "AdNAcCAbHAdTTAbHAeLLAdJAbHAdDDAbHAeNGAdPAbHAdHAcRAcSAjVOWEL. AAcIaIcUaU@11d90@cEEcAI@11d93@cOO",
  "cAUnSIGN ANUSVARAiVISARGAmVIRAMAgOM@11da0@cDIGIT ZEROeONEdTWOcHREEfFOURdIVEeSIXcEVENfEIGHTfNIN",
  "E@11ee0@yMAKASAR !KAcGAcNGAdPAcBAcMAcTAcDAcNAcCAcJAcNYAdYAcRAcLAcVAcSAcAiANGKAfVOWEL. IbUbEbOm",
  "PASSIMBANGkEND OF SECTION@11fb0@wLISU !YHA@11fc0@pTAMIL FRACTION ONE THREE-HUNDRED-AND-TWENTIE",
  "THzcONE-HUNDRED-AND-SIXTIETHyEIGHTIETHjSIXTY-FOURTHmFORTIETHiTHIRTY-SECONDrTHREE EIGHTIETHSkSI",
  "XTY-FOURTHStONE TWENTIETHjSIXTEENTH-1b2lTENTHfEIGHTHkTHREE TWENTIETHSkSIXTEENTHSqONE FIFTHfQUA",
  "RTERhHALF-1b2kTHREE QUARTERSoDOWNSCALING FACTOR KIIZHziSIGN NELdCEVITUgAAZHAAKKUjUZHAKKUhMUUVU",
  "ZHAKKUlKURUNIgPATHAKKUiMUKKURUNIjKAACUfPANAMeONdVARAAKANiPAARAMgKUZHIfVELIjWET CULTIVATION.uDR",
  "Y CULTIVATION.uLAND.jSALT PAN.nTRADITIONAL CREDIT.lNUMBER.xCURRENT.mAND ODD.mSPENT.kTOTAL.kIN ",
  "POSSESSION.sSTARTING FROM.rIGN MUTHALIYAjVAKAIYARAA@11fff@pPUNCTUATION END OF TEXTzeCUNEIFORM.",
  " Aa TIMES AbBADdGAN2 TENUjHAcIGIdLAGAR GUNUkMUSHeSAGk2bBa TIMES ASH2eDUN3 GUNUjGALbN2 TENUjHAc",
  "IGI GUNUhMINeLAGABfSHESHfU PLUS U PLUS UvGUNUf2a TIMES BALAGfGAN2 TENUjME PLUS ENkSHA3eTAK4nDb",
  "Ka TIMES ERIN2fSHITA PLUS GISHxLa TIMES ALcDIM2eGISHeHAcKAD3dIcSHEdUSHkANcEPHeMARa TIMES SHEnN",
  "a OVER ANhTHREE TIMESlPLUS NAGA OPPOSING AN PLUS NAGAvSQUAREDsSHEePINdRADa TIMES KURmKABeSAL2d",
  "Ha ZIDA TENUjKABA TENUjOVER ASH TUG2 OVER TUG2 TUG2 OVER TUG2 PAPziOVER ASHa CROSSING ASH OVER",
  " ASH OVER ASHzy2bGABgBAaDbG3cHAR2eLa OVER BALjAGdRaA2eIa TIMES AbGARdIGI GUNUqUa OVER BU ABcUN",
  "kCROSSING BUmLUGa OVER BULUGoRa2eDAaGa KISIM5 TIMES A PLUS MASHkMAReBALAGeIcGAa PLUS MASHlIaR2",
  "dUDdHAcIRa PLUS LUkKAKdLAbUa PLUS MASH2lMdNEcPAP PLUS PAPmSIcTAK4eU2 PLUS GIR2lSHsMbRaA3b4eIaB",
  "bMa TIMES SHEk2cNa KASKAL U GUNU DISHuSHdUa OVER DUhGUNUeSHESHIGiBa TIMES ESH2l2cGaUDdHbNa3a G",
  "UNUa GUNUl4cR2eEa TIMES PAPjOVER E NUN OVER NUNu2a TIMES A PLUS HA PLUS DArGARdMIcSALcHEdUjDIN",
  "dGIRdLbNa TIMES GAN2a TENUjMEiCROSSING ENlOPPOSING ENlSQUAREDjRENcIN2eSH2dZENa TIMES Aa PLUS L",
  "ALa TIMES LALtNcBADdDUN3 GUNUa GUNUoHAa GUNUhIGI GUNUiKASKALa SQUAREDnU3dLAaL TIMES LALmIbUcU2",
  "bDnGAa GUNUf2a TIMES A PLUS DA PLUS HAkHAcIGIjB2 TENU PLUS TABqNbSHa2 PLUS GALnBADbR PLUS RAkU",
  "Ra PLUS RAlDAbIaM TIMES SHEmUBdELa PLUS LAjNa TIMES GAN2 TENUsGAN2 TENUhRcIa4a PLUS AiR2 PLUS ",
  "SUmHA PLUS LU PLUS ESH2sLa PLUS LAkI PLUS LIjUB2eIGI GUNUhSH PLUS HU PLUS ASHuKAKbSKALfIDa PLU",
  "S LALlU3 PLUS ANlLAcME PLUS ENjIcNUNa OVER NUNmPAcSALbRcHEa PLUS TURkIDdUMdTAK4eUaDa PLUS DUqO",
  "VER GA2kBAa CROSSING GABAqDa OVER GAD GAR OVER GARxLa GAD OVER GAD GAR OVER GARzbAMdMbNa2a TEN",
  "UeOVER GAN2jCROSSING GAN2qRa3cSHANfESHTINa TIMES KURqIa TIMES EbUhCROSSING GIm4a OVER GI4iCROS",
  "SING GI4oDIMdR2a GUNUg3a TIMES A PLUS IGIkGAN2 TENUjIGIdLU PLUS IGIlPAlSALcHa CROSSING GISHnTI",
  "MES BADdTAK4jENUiUa CROSSING GUm2a TIMES KAKa TIMES IGI GUNUsNUNdSAL PLUS TUG2tGUNUgDa TIMES A",
  " PLUS KURkKURjOVER GUD LUGALqLbMa TIMES SHElRa7bUNbSHgHAa TENUeGUNUfLcIa TIMES ASHa2eBADdDISHe",
  "GADdKINdNUNdSHEdUjUaB2a TIMES ANcHALdKASKALgLISHeUDlL2eIa AcBbDIMa OVER IDIM BURdSQUAREDvGaIa ",
  "DIBdRIcOVER IGI SHIR OVER SHIR UD OVER UDzjGUNUhLa TIMES GAN2 TENUq2cMa TIMES TAK4kCROSSING IM",
  "lOPPOSING IMlSQUAREDiINdNbRbSHdKAa TIMES AaDa PLUS KU3kSH2eBADbLAGdRcIcERIN2eSH2eGAaLbN2 TENUh",
  "Ra PLUS SHA3 PLUS AtIaR2cSH PLUS SARiCROSSING GISHrUaR7eIGIcMcKAKcIaDdLIbUcMEa PLUS DUcGIcTEjI",
  "a PLUS NUNUZnNEbUNdPIcRUcSAaRcHAbEbIDcUcIGcUHURfTARdUa2bDbMUM TIMES PAmSHdZIj2a CROSSING KA2oB",
  "bD2b3b4b5a OVER KAD5mKa TIMES IGI GUNUqLa TIMES BADjCROSSING KALoM2b4cSKALa LAGAB TIMES U OVER",
  " LAGAB TIMES UzhOVER KASKAL LAGAB TIMES U OVER LAGAB TIMES UzzaESH2eIa TIMES BADdUaDjDbNbSALcH",
  "bIM5a OVER KISIM5rUa OVER HI TIMES ASH2 KU OVER HI TIMES ASH2zq3b4a VARIANT*o7bLa GUNUgNbRa OP",
  "POSING KURoSHU2fWU318gLAaGABa TIMES Aa PLUS DA PLUS HAkGARdLALjLbNbSH ZIDA TENUnBADcIcDARdENcG",
  "AaRcUDa PLUS GUDmHAaLcI TIMES NUNmIGI GUNUhMa PLUS HAcLUkKIaNcU3bLa PLUS HI PLUS AsLAGABeISHdU",
  "aLdMEa PLUS ENjUSHeNEcSHE PLUS SUMkITA PLUS GISH PLUS ERIN2kTENUsU2a PLUS SHU2nUMdTAGbK4dE PLU",
  "S A PLUS SU PLUS NAzaUa PLUS AbU PLUS Uo2 PLUS ASHkDbSHjSQUAREDjRa TIMES SHEa PLUS SUMsGUNUa O",
  "VER LAGAR GUNU SHEzdHSHUeLa TIMES LALlMa TIMES KURa PLUS RUuIaLbMMU2eSHdUa TIMES BADk2a TIMES ",
  "ALcBADdESH2a TENUjGAN2 TENUjHI TIMES BADmIMcKAD2b3a PLUS ASHmIcLA PLUS ASHjGABfME PLUS ENkNEbU",
  "cSI PLUS ASHjK2 PLUS BUmTUG2jENUeCROSSING LU2mOPPOSING LU2mSQUAREDgHESHIGj3bGALa OVER LUGALjPP",
  "OSING LUGALoSHESHIGlHbLbMa OVER LUMa GAR OVER GARzaMAa TIMES TAK4kGUNUf2bHbRbSHa2eEaScIaNcUa O",
  "VER MUiGa GUNUgNSUBeRGU2eSHa TIMES AbKURdZAiOVER MUSHa TIMES A PLUS NAzaCROSSING MUSHo3a TIMES",
  " Aa PLUS DIjDIiGUNUkNAa2bGAa INVERTEDiTIMES SHU TENUoOPPOSING NAGAoRdM NUTILLUia2dEa TIMES AbU",
  "DiSHESHIGjIa TIMES Ei2bMa TIMES GAN2 TENUhR PLUS GAN2 TENUzbNDA2a TIMES ANbSHa PLUS ASHmGUDdME",
  " PLUS GAN2 TENUrNEbUNdSHEa PLUS A ANdSHa PLUS ASHvU2 PLUS ASHkSHoSAGeUa11cNa LAGAR TIMES GARdM",
  "ASHeSALa OVER NUN LAGAR TIMES SALzdUSHpTENUeOVER NUNiCROSSING NUNa LAGAR OVER LAGARzfUZa AB2 T",
  "IMES ASHGABgBIcDUGdGUDdIGI GUNUiKAD3eLAcNEcSILA3fU2mKISIM5 TIMES BIa UxPAaDbNbPcESH2eIa TIMES ",
  "AaBcBIbUcEbIaBcUa2iCROSSING PImRIGa TIMES KALdUDcZAiOPPOSING PIRIGuRAaBcIbUcSAaG NUTILLUia TIM",
  "ES AbDUaBdHAcKAKcURdLUMdMIcNUNdSALcHIDeTABdU2bBbMbRbSHjOVER SAGiGUNUgLa LAGAB TIMES ASH2sNGA2e",
  "RcHAa3a TIMES AbBADdGISHeNEcSHU2eTURdUa PLUS Aq6bB6cR2dEa HUcOVER SHE GAD OVER GAD GAR OVER GA",
  "RzaTAB OVER TAB GAR OVER GARzkG9cNbSHa2bLAMgIDa TIMES AbIMkMa TIMES AbBALcULUGfDINdGARdIGIa GU",
  "NUiKUSHU2gLULdMUGdSALlNIGdRa TENUeOVER SHIR BUR OVER BURyTAdUa OVER INVERTED SHUs2bBURfIa GUNU",
  "fGa4a OVER SIG4 SHU2rK2cLA3eUa OVER SUiDa2cHURdMaASHeRa9eTAa ASTERISKiTIMES HIcMIiGUNUfBa OVER",
  " TAB NI OVER NI DISH OVER DISHzjSQUAREDjGa TIMES BIcGUDdSHEbUdTUG2eUDkK4cRcEa GUNUgIa TENUfLbR",
  "a TIMES TAK4kOVER TIRa GAD OVER GAD GAR OVER GARzmUaG2cKbMbRa OVER TUR ZA OVER ZAxUa GUDdU UdO",
  "VER U PA OVER PA GAR OVER GARxSUR OVER SURmU REVERSED OVER U REVERSEDzj2bBbDa KUSHU2gTIMES BAD",
  "dMIcU PLUS U PLUS Ua GUNUzbGUNUeSHESHIGa TIMES BADsUGdMa TIMES LAGABfME PLUS DAkSHA3eUiBINdUMa",
  " TIMES KASKALgPAmNa GUNUgRa CROSSING URlSHESHIGi2a TIMES A PLUS HAcNAiLcHAcNUNdU2a PLUS ASHdBI",
  "s4bIa3cUa TIMES AaSHGABgBARdDUNdGAaLbN2 TENUhRcUcHAcIGIcMbSHdKIcLUMdMINdPAcSHEcIG4eTUcU PLUS G",
  "UDjDbRUDAmDAa TIMES UmSHa TIMES AbKUaRdTAK4lXb2bUMXfTUKIeZ3a TIMES KASKALoUdZAa TENUeSQUARED T",
  "IMES KURsGbMXdE2cIa OVER ZIi3bBa KABA TENUlGbZ2dUa5a TIMES AjBURdMdKAP ELAMITElAB TIMES NUNk2 ",
  "TIMES AkMAR TIMES KUGoDAG KISIM5 TIMES U2 PLUS MASHzb3dISH PLUS SHUmUB TIMES SHEnEZEN TIMES GU",
  "DdSHEoGA2 TIMES AN PLUS KAK PLUS ArSH2nE22dIGdHUSHeKA TIMES ANSHEeSH3eGISHdUDdHI TIMES ASH2nLU",
  "MdPAcSHULeTUcUR2mLAGAB TIMES GInU2 SHESHIG TIMES BADrTIMES ESH2 PLUS LALnSHUnMESHdUSH3 TIMES Z",
  "AoNA4cINa9bDA2 TIMES BALdGIoU11 ROTATED NINETY DEGREESzcPESH2 ASTERISKnIR2eSAG TIMES IGI GUNUs",
  "TI2dUM TIMES MEk U@12400@iNUMERIC. TWO ASHgHREE ASHjFOUR ASHhIVE ASHiSIX ASHgEVEN ASHjEIGHT AS",
  "HjNINE ASHiTHREE DISHkFOUR DISHiIVE DISHjSIX DISHhEVEN DISHkEIGHT DISHkNINE DISHjFOUR UfIVE Ug",
  "SIX UeEVEN UhEIGHT UhNINE UgONE GESH2jTWO GESH2iHREE GESH2lFOUR GESH2jIVE GESH2kSIX GESH2iEVEN",
  " GESH2lEIGHT GESH2lNINE GESH2kONE GESHUjTWO GESHUiHREE GESHUlFOUR GESHUjIVE GESHUkTWO SHAR2iHR",
  "EE SHAR2a VARIANT*yFOUR SHAR2jIVE SHAR2kSIX SHAR2iEVEN SHAR2lEIGHT SHAR2lNINE SHAR2kONE SHARUj",
  "TWO SHARUiHREE SHARUa VARIANT*yFOUR SHARUjIVE SHARUkSHAR2 TIMES GAL PLUS DISHeMINyONE BURUiTWO",
  " BURUhHREE BURUa VARIANT*xFOUR BURUiIVE BURUjTHREE VARIANT* ESH16c21yFOUR VARIANT* LIMMUa4b Ab",
  "BzaSIX VARIANT* ASH9uEVEN VARIANT* IMIN3b AbBzaEIGHT VARIANT* USSUa3yNINE VARIANT* ILIMMUa3b4b",
  " AzbTWO ASH TENUlHREE ASH TENUoFOUR ASH TENUmIVE ASH TENUnSIX ASH TENUmONE BAN2iTWO BAN2hHREE ",
  "BAN2kFOUR BAN2a VARIANT*vIVE BAN2a VARIANT*wNIGIDAMINdESHjONE ESHE3jTWO ESHE3jONE THIRD DISHoT",
  "WO THIRDS DISHpFIVE SIXTHS DISHqONE THIRD VARIANT* AyTWO THIRDS VARIANT* AzaONE EIGHTH ASHkQUA",
  "RTER ASHoLD ASSYRIAN ONE SIXTHfQUARTERxNE QUARTER GURlHALF GURmELAMITE ONE THIRDjTWO THIRDSkFO",
  "RTYeIFTYnFOUR U VARIANT*sIVE U VARIANT*tSIX U VARIANT*rEVEN U VARIANT*uEIGHT U VARIANT*uNINE U",
  " VARIANT*@12470@zhPUNCTUATION. OLD ASSYRIAN WORD DIVIDERza|COLONoDIAGONAL COLONfTRICOLONiQUADC",
  "OLON@12480@zkSIGN AB TIMES NUN TENUiSHU2mD TIMES ESH2nBAD TIMES DISH TENUrHAR2 TIMES AB2dNIcZA",
  "oU OVER BU TIMES NA2uDA TIMES TAK4lG TIMES KURmIM TIMES IGIdU U Um2 TIMES UDmUG TIMES ANSHEeSH",
  "a AT LEFTlDINcUNdERIN2fGAbIaR2 GUNUhSHeHAbIcIGI GUNUiKASKALfURbSHU2a PLUS KASKALsLAK-020fMa TI",
  "MES KURmUH PLUS GISHnMASHdEScIcNIcPIcSHEcI GUNUrE2 TIMES KURdPAPlRIN2 XgSH2 CROSSING ESH2rZEN ",
  "SHESHIG TIMES ASHdHIcIGI GUNUiLAaLdMEaSdSUqTIMES SUnGA2 TIMES BAHAR2gDIM GUNUhUG TIMES IGI GUN",
  "UiKASKALqERENeGAaR PLUS DIcNElHA PLUS AjKUSHU2 PLUS KASKALsLAMa TIMES KURmUHdMUSHeNEa PLUS E2c",
  "GIkSHIMeZIZ2mBA ROTATED NINETY DEGREESzbESHTIN TIMES UoISH TIMES GISH CROSSING GISHzdU2 TIMES ",
  "IGI GUNUqD PLUS GISH TIMES TAK4yHA TENU GUNUlI TIMES ASH OVER HI TIMES ASHzfKA TIMES BUcKAcU U",
  " UeRlLAGAB TIMES ZU OVER ZUuK-003c21b5c30c50b1c62c79 OVER LAK-079 GUNUu80b1 OVER LAK-081p92d13",
  "0c42d210b9c20b5b8c38c65b6d343b7b8c83b4c90d441b9a TIMES GUcIGIdPAP PLUS LU3dPAP PLUS LU3vU2 PLU",
  "S BAt50b7c70c83c90b2b3b5d550d608c17a TIMES ASHdBADdDUN3 GUNU GUNUoKU3dLAcTARcEcU2bDbRUDAo36c48",
  "a TIMES DUBdGAcIGIa GUNUiNIcPAP PLUS PAP PLUS LU3vSHESH PLUS KInUDbRUDAp724c49gU2 GUNU TIMES A",
  "SHoTIMES DISHeHALdPAPa PLUS PAP PLUS LU3vTAK4oMI PLUS ZA7kUSH OVER MUSH TIMES GAcKAKyNINDA2 TI",
  "MES DIM GUNUiGISHdULdHIcKESH2fLAK-050hMASHePAP PLUS PAPmUa PLUS UhRUDAsSAG GUNU TIMES HAnTIMES",
  " ENcSHE AT LEFTlTAK4nHA6 TENUhE OVER SHEiPLUS HUB2eNAM2eSARkU2 PLUS DUG TIMES NImE2 TIMES ANuI",
  " TIMES TAK4nTAK4 PLUS SAGmUM TIMES GAN2 TENUjTHREE DISHuUR2 INVERTEDiTIMES UDkU TIMES DARA3fLA",
  "K-668gU3nZA7cU OVER ZU PLUS SARr5 TIMES THREE DISH TENU@12f90@zoYPRO-MINOAN. CM001b2b4b5b6b7b8",
  "b9c10b1b2aBc3b5b7b9c21b3b4b5b6b7b8b9c30b3b4b5b6b7b8b9c40b1b4b6b7b9c50b1b2b3b4b5b6b8b9c60b1b2b3",
  "b4b6b7b8b9c70b1b2b3b4b5aBc6b8b9c80b1b2b3b4b5b6b7b8b9c90b1b2b4b5b6b7b8b9d100b1b2b3b4b5b7b8b9c10",
  "b2b4d301b2@13000@xEGYPTIAN HIEROGLYPH A001b2b3b4b5aAc6aAbBc7b8b9c10b1b2b3b4aAc5b6b7aAc8b9c20b1",
  "b2b3b4b5b6b7b8b9c30b1b2aAc3b4b5b6b7b8b9c40aAc1b2aAc3aAc4b5aAc6b7b8b9c50b1b2b3b4b5b6b7b8b9c60b1",
  "b2b3b4b5b6b7b8b9c70eB001b2b3b4b5aAc6b7b8b9eC001b2aAbBbCc3b4b5b6b7b8b9c10aAc1b2b3b4b5b6b7b8b9c2",
  "0b1b2b3b4eD001b2b3b4b5b6b7b8aAc9c10b1b2b3b4b5b6b7b8b9c20b1b2b3b4b5b6b7aAc8b9c30b1aAc2b3b4aAc5b",
  "6b7b8b9c40b1b2b3b4b5b6aAc7b8aAc9c50aAbBbCbDbEbFbGbHbIc1b2aAc3b4aAc5b6b7b8b9c60b1b2b3b4b5b6b7aA",
  "bBbCbDbEbFbGbHfE001b2b3b4b5b6b7b8aAc9aAd10b1b2b3b4b5b6aAc7aAc8b9c20aAc1b2b3b4b5b6b7b8aAc9c30b1",
  "b2b3b4aAc6b7b8eF001aAc2b3b4b5b6b7b8b9c10b1b2b3aAc4b5b6b7b8b9c20b1aAc2b3b4b5b6b7b8b9c30b1aAc2b3",
  "b4b5b6b7aAc8aAc9c40b1b2b3b4b5aAc6aAc7aAc8b9c50b1aAbBbCc2b3eG001b2b3b4b5b6aAc7aAbBc8b9c10b1aAc2",
  "b3b4b5b6b7b8b9c20aAc1b2b3b4b5b6aAc7b8b9c30b1b2b3b4b5b6aAc7aAc8b9c40b1b2b3aAc4b5aAc6b7b8b9c50b1",
  "b2b3b4eH001b2b3b4b5b6aAc7b8eI001b2b3b4b5aAc6b7b8b9aAd10aAc1aAc2b3b4b5eK001b2b3b4b5b6b7b8eL001b",
  "2aAc3b4b5b6aAc7b8eM001aAbBc2b3aAc4b5b6b7b8b9c10aAc1b2aAbBbCbDbEbFbGbHc3b4b5aAc6aAc7aAc8b9c20b1",
  "b2aAc3b4aAc5b6b7b8aAc9c30b1aAc2b3aAbBc4b5b6b7b8b9c40aAc1b2b3b4eN001b2b3b4b5b6b7b8b9c10b1b2b3b4",
  "b5b6b7b8aAbBc9c20b1b2b3b4b5aAc6b7b8b9c30b1b2b3aAc4aAc5aAc6b7aAc8b9c40b1b2dL001b2b3b4b5aAc6b7b8",
  "b9c10b1b2b3b4b5b6b7aAc8b9c20eU001b2b3b4b5b6b7b8b9c10aAc1aAc2b3b4b5b6b7b8aAc9c20b1b2aAgO001aAc2",
  "b3b4b5aAc6aAbBbCbDbEbFc7b8b9c10aAbBbCc1b2b3b4b5b6b7b8b9aAd20aAc1b2b3b4aAc5aAc6b7b8b9aAd30aAc1b",
  "2b3aAc4b5b6aAbBbCbDc7b8b9c40b1b2b3b4b5b6b7b8b9c50aAbBc1eP001aAc2b3aAc4b5b6b7b8b9c10b1eQ001b2b3",
  "b4b5b6b7eR001b2aAc3aAbBc4b5b6b7b8b9c10aAc1b2b3b4b5b6aAc7b8b9c20b1b2b3b4b5b6b7b8b9eS001b2aAc3b4",
  "b5b6aAc7b8b9c10b1b2b3b4aAbBc5b6b7aAc8b9c20b1b2b3b4b5b6aAbBc7b8b9c30b1b2b3b4b5aAc6b7b8b9c40b1b2",
  "b3b4b5b6eT001b2b3aAc4b5b6b7aAc8aAc9aAd10b1aAc2b3b4b5b6aAc7b8b9c20b1b2b3b4b5b6b7b8b9c30b1b2aAc3",
  "aAc4b5b6eU001b2b3b4b5b6aAbBc7b8b9c10b1b2b3b4b5b6b7b8b9c20b1b2b3aAc4b5b6b7b8b9aAd30b1b2aAc3b4b5",
  "b6b7b8b9c40b1b2eV001aAbBbCbDbEbFbGbHbIc2aAc3b4b5b6b7aAbBc8b9c10b1aAbBbCc2aAbBc3b4b5b6b7b8b9c20",
  "aAbBbCbDbEbFbGbHbIbJbKbLc1b2b3aAc4b5b6b7b8aAc9aAd30aAc1aAc2b3aAc4b5b6b7aAc8b9c40aAfW001b2b3aAc",
  "4b5b6b7b8b9aAd10aAc1b2b3b4aAc5b6b7aAc8aAc9c20b1b2b3b4aAc5eX001b2b3b4aAbBc5b6aAc7b8aAfY001aAc2b",
  "3b4b5b6b7b8eZ001b2aAbBbCbDc3aAbBc4aAc5aAc6b7b8b9c10b1b2b3b4b5aAbBbCbDbEbFbGbHbIc6aAbBbCbDbEbFb",
  "GbHfAA001b2b3b4b5b6b7aAbBc8b9c10b1b2b3b4b5b6b7b8b9c20b1b2b3b4b5b6b7b8b9c30b1b2@13430@f|JOINERp",
  "(JOINERrINSERT AT TOP STARTjBOTTOM STARTmTOP ENDhBOTTOM ENDuOVERLAY MIDDLEoBEGIN SEGMENTnEND S",
  "EGMENT@14400@zgANATOLIAN HIEROGLYPH A001b2b3b4b5b6b7b8b9c10aAc1b2b3b4b5b6b7b8b9c20b1b2b3b4b5b6",
  "aAc7b8b9c30b1b2b3b4b5b6b7b8b9aAd40b1aAc2b3b4b5aAc6aAbBc7b8b9c50b1b2b3b4b5b6b7b8b9c60b1b2b3b4b5",
  "b6aAbBbCc7b8b9c70b1b2b3b4b5b6b7b8b9c80b1b2b3b4b5b6b7b8b9c90b1b2b3b4b5b6b7aAc8aAc9d100aAc1aAc2a",
  "Ac3b4aAbBbCc5aAbBc6b7aAbBbCc8b9c10aAbBc1b2b3b4b5aAc6b7b8b9c20b1b2b3b4b5aAc6b7b8b9c30b1b2b3b4b5",
  "aAc6b7b8b9c40b1b2b3b4b5b6b7b8b9c50b1b2b3b4b5b6b7b8b9c60b1b2b3b4b5b6b7b8b9c70b1b2b3b4b5b6b7b8b9",
  "c80b1b2b3b4b5b6b7b8b9c90b1b2b3b4b5b6b7b8b9d200b1b2aAbBc3b4b5b6b7aAc8b9aAd10b1b2b3b4b5aAc6aAc7b",
  "8b9c20b1b2b3b4b5b6b7aAc8b9c30b1b2b3b4b5b6b7b8b9c40b1b2b3b4b5b6b7b8b9c50b1b2b3b4b5b6b7b8b9c60b1",
  "b2b3b4b5b6b7aAc8b9c70b1b2b3b4b5b6b7b8b9c80b1b2b3b4b5b6b7b8b9aAd90b1b2b3b4aAc5b6b7b8b9aAe300b1b",
  "2b3b4b5b6b7b8b9aAd10b1b2b3b4b5b6b7b8b9c20b1b2b3b4b5b6b7b8b9aAd30b1b2AbBbCc3b4b5b6aAbBbCc7b8b9c",
  "40b1b2b3b4b5b6b7b8b9c50b1b2b3b4b5b6b7b8b9aAd60b1b2b3b4aAc5b6b7b8aAc9c70b1aAc2b3b4b5b6b7b8b9c80",
  "b1aAc2b3 RA OR RIjAc4b5b6aAc7b8b9c90b1b2b3 EIGHTh4b5b6b7b8b9d400b1b2b3b4b5b6b7b8b9c10 BEGIN LO",
  "GOGRAM?uA END LOGOGRAM?u1b2b3b4b5b6b7b8b9c20b1b2b3b4b5b6b7b8b9c30b1b2b3b4b5b6b7b8b9c40b1b2b3b4",
  "b5b6b7b8b9c50aAc1b2b3b4b5b6b7aAc8b9c60b1b2b3b4b5b6b7b8b9c70b1b2b3b4b5b6b7b8b9c80b1b2b3b4b5b6b7",
  "b8b9c90b1b2b3b4b5b6b7d501b2b3b4b5b6b7b8b9c10b1b2b3b4b5b6b7b8b9c20b1b2b3b4b5b6b7b8b9c30@16800@z",
  "aBAMUM !PHASE-A NGKUE MFONkGBIEE FONjPON MFON PIPAEMGBIEEfBArNAA MFONiSHUENSHUETkTITA MFONjNZA",
  " MFONiSHINDA PA NJInPON PA NJI PIPAEMGBIEEfBAtMAEMBGBIEEkTU MAEMBAjNGANGUgMAEMVEUXgNSUAEgVEUAE",
  "NGAMkSEUNYAMhNTOQPENhKEUKEUTNDAkNKINDIgSUUdNGKUENZEUMkLAPAQeET KUThNTAP MFAAjMAEKEUPhPASHAEgGH",
  "EUAERAEjPAMSHAEhMON NGGEUAETmNZUN MEUTjU YUQ NAEjGHEUAEGHEUAEmNTAP NTAAjSISAeMGBASAfEUNJOMNDEU",
  "QlOOMPUQhKAFAePA LEERAEWAlNDA LEERAEWAmPETdMAEMKPENiNIKAePUPdTUAEPfLUAEPfSONJAMgTEUTEUWENjMAEN",
  "YIgKETdNDAANGGEUAETmKUOQeMOOMEUThSHUMeLOMMAEgFIRIeROMdKPOQeSOQdMAP PIEETjSHIRAEgNTAPeSHOQ NSHU",
  "T YUMoNYIT MONGKEUAEQpPAARAEgNKAARAEhUNKNOWNhNGGENfMAESIfNJAMeMBANYIgNYETeTEUAENgSOTdPAAMeNSHI",
  "EEgMAEMeNYIdKAQdNSHAeVEEdLUcNENcAQdMBAQgB NSHUETgTU MAEMGBIEEmSIEEdET TUgLOM NTEUMjMBA MAELEEk",
  "KIEEMfYEURAEgMBAARAEhKAMdPEESHIgYAFU LEERAEWAnLAM NSHUT NYAMoNTIEE SHEUOQlDU NJAAiGHEUGHEUAEMl",
  "PITdTU NSIEEiSHET NJAQgUAEQTUjMFON TEUAEQkBIT MBAAKETmNYI NTEUMjKEUPUQgGHEUGHENiKEUYEUXhLAANAE",
  "gPARUMfVEUMeNGKINDI MVOPkGEU MBUjWUAETfSAKEUAEhTAAMeMEUQeNGGUOQa LARGEmMFIYAQgSUEdMBEURIfONTIE",
  "ENiNYAEMAEhPUNGAAMhMEUT NGGEETlFEUXeMBUOQfFEEdKEUAEMgMA NJEUAENAgUQAiLETdNGGAAMfSENeMAcKIQdNGO",
  "MgC NGKUE MAEMBAlZAdYUMdWANGKUOQiNGGENeDEUAEREEiGKAQfGHARAEgMBEEKEETiGBAYIfNYIR MKPARAQ MEUNqT",
  "U MBITiMBEUMfPIRIEENhNDOMBUgMBAA CABBAGE-TREErKEUSHEUAEPkGHAPeKEUKAQgYU MUOMAEjNZEUMfMBUEeNSEU",
  "AENhMBITeYEUQeKPARAQfAAdSEUXeNDIDAfTAASHAEhNJUEQfTITA YUEiSUAETfNGGUAEN NYAMmVEUXeNANSANAQiMA ",
  "KEUAERIkNTAAdGGUONgLAPdMBIRIEENhGBASAQhNTEUNGBAiTEUTEUXhNGGUMfFUEdNDEUTeSAbHAQfBUNGeVEUAEPENiM",
  "BERAEgRUcNJAEMfLAMdTITUAEPhNSUOT NGOMjJEEEEgKETdNGGUeMAESIeBUAEMgLUcKUTdNJAMdGOMeWUPdNGGUEETgS",
  "OMdTENeKUOP NKAARAEmNSUNdDAMeMA NSIEEiYAAdNDAPeSHUEQeETFONgMBIcAEMBAfBANYIgKEUSEUXhMBEUXfKEUMe",
  "MBAA PICKETlYUWOQfNJEUXfMIEEdUAEeSHIQeKEN LAWdFATIGUElNGAQdAQdLIQdPINcENdTETfD MBUOeWAPdNJIdMF",
  "ONeNJIEEfLIEEeNJEUTeSHEEeGGAAMAEhYAMeWUAENfNGKUNfSHEEeNGKAPfKEUAETMEUNkTEUTeSHEUAEgNJAPeSUEdKE",
  "TdYAEMMAEhKUOMeSAPdMFEUTfNDEUXfMALEERIgEUTeSEUAEQgYENdNJEUAEMhKEUOT MBUAElNGKEURIhTUcGHAAeNGKY",
  "EEgFEUFEUAETjNDEEeMGBOFUMhLEUAEPgNDONeMONIdGBEUNgPUUTeMGBIEEfFOdLUMdNSIEEPgMBAAeKWAETfNYETeTEU",
  "AENgSOTdYUWOQfKEUMeRAEMeTEEEEfNGKEUAEQiMFEUAEgNSIEETgKEUPePIPcEUTAEgNYUEeLETdNGGAAMgMFIEEfNGGW",
  "AENhYUOMePAPdYUOPeNDAMdTEUMfSUAEeKUNdNGGEUXeKIEEgTUOTeMEUNeKUQdNSUMeTEUNeMAENJEThNGGAPfLEUMeNG",
  "GUOMfSHUTeJUEQfGHEUAEgKUcREN OLDhTAEcOQdNYIdRIIdLEEEEfMEEEEebSUUdMUcSHIIcEUXfKYEEeNUcSHUdNTEEe",
  "PEEdNIcSHOQePUQdMVOPeLOQdREN MUCHiTIcNTUUeMBAA SEVENkSAQdFAAfE NDAPeTOONeMBEUMfLAPdVOMdLOONePA",
  "AdSOMdRAQdNSHUOPfDUNePUAEeTAMdNGKAeKPEUXfWUOdSEEdNGGEUAETiPAAMeTOOdKUOPeLOMdNSHIEEfGOPeMAEMeNG",
  "KEUXeOQdSHUEfRIMGBAgNJEUXfPEEMeSAAdNGGURAEhMGBAeGHEUXfNGKEUAEMhJAEMLIhMAPdLOOTeNGGEEEEgDIQeTAE",
  "N NTEUMkSETdPUMdNDAA SOFTNESSmGGUAESHAE NYAMpYIEEeGHEUNfTUAEeYEUAEfPOcTUMAEfKEUAEfSUAENfTEUAEQ",
  "gVEUAEfWEUXeLAAMePUcTAAQeGHAAMAEhNGEUREUTiSHEUAEQhMGBENeBEEeNZAQdKOMeGBETeTUMdKUETeYAPdNYI CLE",
  "AVERlYITdMFEUQfNDIAQfPIEEQfYUEQeLEUAEMgFUEdGBEUXfNGKUPfKETdMAEdNGKAAMIhGHETeFAcNTUMePEUTeYEUMe",
  "NGGEUAEgYI BETWEENkZUQePOONeMIEEeFUETeNAEdMUAEeGHEUAEgFU IeMVIdPUAQeNGKUMfKUTdPIETeNTAPeYEUAET",
  "gNGGUPfPA PEOPLEjFU CALLgOMdNJEEeAbTOQdObIbLAQdPA PLURALjTAAbQdNDAA MY HOUSEnSHIQeYEUXeNGUAEfY",
  "UAENeOQ SWIMMINGiCOVERiUQbNdKEUXePEUXeNJEE EPOCHkPUEdWUEdFEEdVEEdLUcMIcREUXdAEdNGUAETeAdSHOaQe",
  "FU REMEDYjNAcPIcLOQdKOcMENcAaQdTEUdKIcMONdTENdFAQdGHOMgF KAcUbKUcEEcREEdTAEdNYIdLAcRIIbEEeMEEE",
  "EfTAAdNDAAdJAEMfMbSUUcHIIdIbEUXeKYEEdETdNUAEcbJUAEfYOQdSHUdYAcNSHAePEUXeNTEEeWUEdPEEdRUcNIcREU",
  "XeKENdNGKWAENfGAeSHOdPUAEeFOMdWAcLIbOQdKOcMBENeRENdMAbObBAAeTETdKPAdSAMBAfVUEQ@16a40@zaMRO !TA",
  "cNGIdYOcMIMdBAcDAcAbPHIdKHAIeHAOdDAIdCHUdKEAAEfOLcMAEMeNINdPAcOObbROcSHIdTHEAeEAcWAcEbKOcLANbc",
  "HAIdRIcTEK@16a60@kDIGIT ZEROeONEdTWOcHREEfFOURdIVEeSIXcEVENfEIGHTfNINE@16a6e@jANDAeOUBLE DANDA",
  "qTANGSA !OZbCbQbXcAZbCbQbXcVZbCbQbXcEZbCbQbXcIZbCbQbXcUZbCbQbXcAWZbCbQbXdUIZbCbQbXdFINAL NGiLO",
  "NG UEXiSHORT UEZdAWXjUECbZbQbXcIUZbCbQbXeMZbCbQbXcKAbHAdGAcNGAdSAcYAcWAcPAcNYAdPHAdBAcMAcNAcHA",
  "cLAcHTAdTAcDAcRAcNHAdSHAdCAcTSAdGHAdHTTAeTHAdXAcFAcDHAdCHAdZA@16ac0@jDIGIT ZEROeONEdTWOcHREEfF",
  "OURdIVEeSIXcEVENfEIGHTfNINE@16ad0@rBASSA VAH !ENNIeKAcSEcFAcMBEdYIEdGAHdDHIIeKPAHeJOcHWAHeWAcZ",
  "OcGBUdDOcCEcUWUdTOcBAcVUcYEINePAcWADDAfAbOaOcUbEEbbI@16af0@iCOMBINING HIGH TONEjLOW TONEiMID T",
  "ONEiLOW-MID TONEmHIGH-LOW TONExFULL STOP@16b00@tPAHAWH HMONG VOWEL KEEBbVdIBbVcAUBbVdUBbVcEBbV",
  "cAIBbVdOOBbVdAWBbVdUABbVdOBbVcIABbVdABbVcWBbVcAABbVkCONSONANT VAUdNTSAUfLAUdHAUdNLAUeRAUdNKAUe",
  "QHAUeYAUdHLAUeMAUdCHAUeNCHAUfHNAUePLHAUfNTHAUeAUdAUcXAUdCAUnMARK CIM TUBdSOcKEScHAVeSUAMeHOMdT",
  "AUMnSIGN VOS THOMdSHAB CEEBoCIM CHEEMjVOS THIABfFEEMiXYEEM NTXIVfRHOdTOVdFAIBkVOS SEEViMEEJ SU",
  "ABjVOS NRUAiIB YAMgXAUSeCIM TSOV ROG@16b50@rDIGIT ZEROeONEdTWOcHREEfFOURdIVEeSIXcEVENfEIGHTfNI",
  "NE@16b5b@kNUMBER TENSeHUNDREDSiTEN THOUSANDSnMILLIONSiHUNDRED MILLIONSqTEN BILLIONSlRILLIONS@1",
  "6b63@qSIGN VOS LUBhXYOOeHLIdTHIRD-STAGE HLIpZWJ THAJiHNUBeNQIGeXIABeNTUJeAVcTXHEEJ CEEVlMEEJ T",
  "SEEBkTAUdLOSdMUSdCIM HAIS LUS NTOG NTOGsCUAM TSHOOJlTXWVa CHWVjPUB DAWBiNRES TOS@16b7d@rCLAN. ",
  "TSHEEJgYEEGeLIScAUJeXYOOJfKOOdHAWJeMUASeTHOJdSABePHABeKHABeHAMdVAJdFAJdYAJdTSWBeKWMdVWJ@16e40@",
  "zbMEDEFAIDRIN $!MbSbVbWbATIUeZbKPcPbTbGbFbIbKbAbJbEbBbCbUbYUcLbQbHPcNYcXbDbOEcNbRbObAIcYq%!MbS",
  "bVbWbATIUeZbKPcPbTbGbFbIbKbAbJbEbBbCbUbYUcLbQbHPcNYcXbDbOEcNbRbObAIcYoDIGIT ZEROeONEdTWOcHREEf",
  "FOURdIVEeSIXcEVENfEIGHTfNINEkNUMBER TENdELEVENgTWELVEfHIRTEENiFOURTEENhIFTEENhSIXTEENgEVENTEEN",
  "jEIGHTEENiNINETEENpDIGIT ONE ALTERNATE*sTWO ALTERNATE*rHREE ALTERNATE*zbCOMMAfFULL STOPj~AIVAl",
  "EXCLAMATION OH@16f00@zaIAO !PAcBAcYI PAfPLAdMAbHAdARCHAIC MAkFAcVAbFAdTAcDAcYI TTAcAfTTAdDDAdN",
  "AbHAdYI NNAgARCHAIC NAkNNAbHAeLAbYAcHAbYAeTLHAeDLHAeTLHYAfDLHYAfKAcGAcYI KAfQAbGAdNGAbHAeARCHA",
  "IC NGAlHAcXAcGHAbHAeTSSAeDZZAeNYAbHAeTSHAeDZHAeYI TSHAeDZHAhREFORMED TSHAnSHAcSAdZHAcSHAeTSAdD",
  "ZAdYI TSAgSAcZAbSAcZAbSAeARCHAIC ZZAlZZYAcSYAfWAcAHcHHAdBRIdSYIdDZYIeTEbSEdRTE@16f4f@kSIGN CON",
  "SONANT MODIFIER BARzc!NASALIZATIONtSIGN ASPIRATIONkREFORMED VOICINGhASPIRATIONyVOWEL. AaAbHHcN",
  "aGdOaOcWObbEaNaGdOEYdIaAaNaGdObEbIbUbNGdUaAaNaGdUbEIcNGdYaIcAEaEdERRdROUNDED ERRlERcROUNDED ER",
  "kAIcEIcAUcOUcNaGcUOGdYUIdOGbERdVWcIGcEAcIONGeUI@16f8f@nTONE RIGHTfTOP RIGHTjABOVEfBELOWk!TONE-",
  "2b3b4b5b6b7b8gREFORMED TONE-1b2b4b5b6b8@16fe0@zcTANGUT ITERATION?vNUSHU ITERATION?uOLD CHINESE",
  " HOOK?jITERATION?zbKHITAN %SCRIPT FILLER@16ff0@zbVIETNAMESE ALTERNATE READING? CAcNHAY@18800@z",
  "nTANGUT COMPONENT-001b2b3b4b5b6b7b8b9c10b1b2b3b4b5b6b7b8b9c20b1b2b3b4b5b6b7b8b9c30b1b2b3b4b5b6",
  "b7b8b9c40b1b2b3b4b5b6b7b8b9c50b1b2b3b4b5b6b7b8b9c60b1b2b3b4b5b6b7b8b9c70b1b2b3b4b5b6b7b8b9c80b",
  "1b2b3b4b5b6b7b8b9c90b1b2b3b4b5b6b7b8b9d100b1b2b3b4b5b6b7b8b9c10b1b2b3b4b5b6b7b8b9c20b1b2b3b4b5",
  "b6b7b8b9c30b1b2b3b4b5b6b7b8b9c40b1b2b3b4b5b6b7b8b9c50b1b2b3b4b5b6b7b8b9c60b1b2b3b4b5b6b7b8b9c7",
  "0b1b2b3b4b5b6b7b8b9c80b1b2b3b4b5b6b7b8b9c90b1b2b3b4b5b6b7b8b9d200b1b2b3b4b5b6b7b8b9c10b1b2b3b4",
  "b5b6b7b8b9c20b1b2b3b4b5b6b7b8b9c30b1b2b3b4b5b6b7b8b9c40b1b2b3b4b5b6b7b8b9c50b1b2b3b4b5b6b7b8b9",
  "c60b1b2b3b4b5b6b7b8b9c70b1b2b3b4b5b6b7b8b9c80b1b2b3b4b5b6b7b8b9c90b1b2b3b4b5b6b7b8b9d300b1b2b3",
  "b4b5b6b7b8b9c10b1b2b3b4b5b6b7b8b9c20b1b2b3b4b5b6b7b8b9c30b1b2b3b4b5b6b7b8b9c40b1b2b3b4b5b6b7b8",
  "b9c50b1b2b3b4b5b6b7b8b9c60b1b2b3b4b5b6b7b8b9c70b1b2b3b4b5b6b7b8b9c80b1b2b3b4b5b6b7b8b9c90b1b2b",
  "3b4b5b6b7b8b9d400b1b2b3b4b5b6b7b8b9c10b1b2b3b4b5b6b7b8b9c20b1b2b3b4b5b6b7b8b9c30b1b2b3b4b5b6b7",
  "b8b9c40b1b2b3b4b5b6b7b8b9c50b1b2b3b4b5b6b7b8b9c60b1b2b3b4b5b6b7b8b9c70b1b2b3b4b5b6b7b8b9c80b1b",
  "2b3b4b5b6b7b8b9c90b1b2b3b4b5b6b7b8b9d500b1b2b3b4b5b6b7b8b9c10b1b2b3b4b5b6b7b8b9c20b1b2b3b4b5b6",
  "b7b8b9c30b1b2b3b4b5b6b7b8b9c40b1b2b3b4b5b6b7b8b9c50b1b2b3b4b5b6b7b8b9c60b1b2b3b4b5b6b7b8b9c70b",
  "1b2b3b4b5b6b7b8b9c80b1b2b3b4b5b6b7b8b9c90b1b2b3b4b5b6b7b8b9d600b1b2b3b4b5b6b7b8b9c10b1b2b3b4b5",
  "b6b7b8b9c20b1b2b3b4b5b6b7b8b9c30b1b2b3b4b5b6b7b8b9c40b1b2b3b4b5b6b7b8b9c50b1b2b3b4b5b6b7b8b9c6",
  "0b1b2b3b4b5b6b7b8b9c70b1b2b3b4b5b6b7b8b9c80b1b2b3b4b5b6b7b8b9c90b1b2b3b4b5b6b7b8b9d700b1b2b3b4",
  "b5b6b7b8b9c10b1b2b3b4b5b6b7b8b9c20b1b2b3b4b5b6b7b8b9c30b1b2b3b4b5b6b7b8b9c40b1b2b3b4b5b6b7b8b9",
  "c50b1b2b3b4b5b6b7b8b9c60b1b2b3b4b5b6b7b8uKHITAN %SCRIPT CHARACTER-18B00b1b2b3b4b5b6b7b8b9bAbBb",
  "CbDbEbFc10b1b2b3b4b5b6b7b8b9bAbBbCbDbEbFc20b1b2b3b4b5b6b7b8b9bAbBbCbDbEbFc30b1b2b3b4b5b6b7b8b9",
  "bAbBbCbDbEbFc40b1b2b3b4b5b6b7b8b9bAbBbCbDbEbFc50b1b2b3b4b5b6b7b8b9bAbBbCbDbEbFc60b1b2b3b4b5b6b",
  "7b8b9bAbBbCbDbEbFc70b1b2b3b4b5b6b7b8b9bAbBbCbDbEbFc80b1b2b3b4b5b6b7b8b9bAbBbCbDbEbFc90b1b2b3b4",
  "b5b6b7b8b9bAbBbCbDbEbFcA0b1b2b3b4b5b6b7b8b9bAbBbCbDbEbFcB0b1b2b3b4b5b6b7b8b9bAbBbCbDbEbFcC0b1b",
  "2b3b4b5b6b7b8b9bAbBbCbDbEbFcD0b1b2b3b4b5b6b7b8b9bAbBbCbDbEbFcE0b1b2b3b4b5b6b7b8b9bAbBbCbDbEbFc",
  "F0b1b2b3b4b5b6b7b8b9bAbBbCbDbEbFdC00b1b2b3b4b5b6b7b8b9bAbBbCbDbEbFc10b1b2b3b4b5b6b7b8b9bAbBbCb",
  "DbEbFc20b1b2b3b4b5b6b7b8b9bAbBbCbDbEbFc30b1b2b3b4b5b6b7b8b9bAbBbCbDbEbFc40b1b2b3b4b5b6b7b8b9bA",
  "bBbCbDbEbFc50b1b2b3b4b5b6b7b8b9bAbBbCbDbEbFc60b1b2b3b4b5b6b7b8b9bAbBbCbDbEbFc70b1b2b3b4b5b6b7b",
  "8b9bAbBbCbDbEbFc80b1b2b3b4b5b6b7b8b9bAbBbCbDbEbFc90b1b2b3b4b5b6b7b8b9bAbBbCbDbEbFcA0b1b2b3b4b5",
  "b6b7b8b9bAbBbCbDbEbFcB0b1b2b3b4b5b6b7b8b9bAbBbCbDbEbFcC0b1b2b3b4b5b6b7b8b9bAbBbCbDbEbFcD0b1b2b",
  "3b4b5@1aff0@zjATAKANA !MINNAN TONE-2b3b4b5@1aff5@b7b8gNASALIZED TONE-1b2b3b4b5@1affd@b7b8"]

end ProposalCheck.Text.CharacterName
