import InfraPolicy.Unicode.Script

/-!
# Script extensions

Some characters are used in several scripts. They belong to the extension of each of these, and if
their own script is none in particular, to no other extension.
-/

namespace InfraPolicy.Unicode

/-- Characters that are used in several scripts, with the four-letter names of the scripts. -/
def scriptExtensionTable : String :=
  "b7AvstCariCoptDuplElbaGeorGlagGongGothGrekHaniLatnLydiMahjPermShaw,
  2bcBengCyrlDevaLatnLisuThaiToto,2c7BopoLatn,2c9-2cbBopoLatn,2cdLatnLisu,2d7LatnThai,2d9BopoLatn,
  300CherCoptCyrlGrekLatnPermSunuTale,301CherCyrlGrekLatnOsgeSunuTaleTodr,302CherCyrlLatnTfng,
  303GlagLatnSunuSyrcThai,304AghbCherCoptCyrlGothGrekLatnOsgeSyrcTfngTodr,
  305CoptElbaGlagGothKanaLatn,306CyrlGrekLatnPermTfng,307CoptDuplHebrLatnPermSyrcTaleTfngTodr,
  308ArmnCyrlDuplGothGrekHebrLatnPermSyrcTaleTfng,309LatnTfng,30aDuplLatnSyrc,30bCherCyrlLatnOsge,
  30cCherLatnTale,30dLatnSunu,30eEthiLatn,310LatnSunu,311CyrlLatnTodr,313GrekLatnPermTodr,
  323CherDuplKanaLatnSyrcTfng,324CherDuplLatnSyrc,325LatnSyrc,32dLatnSunuSyrc,32eLatnSyrc,
  330CherLatnSyrc,331AghbCherGothLatnSunuSyrcThai,342Grek,345Grek,358LatnOsge,35eAghbLatnTodr,
  363-36fLatn,374-375CoptGrek,483CyrlPerm,484CyrlGlag,485-486CyrlLatn,487CyrlGlag,589ArmnGeorGlag,
  60cArabGaraNkooRohgSyrcThaaYezi,61bArabGaraNkooRohgSyrcThaaYezi,61cArabSyrcThaa,
  61fAdlmArabGaraNkooRohgSyrcThaaYezi,640AdlmArabMandManiOugrPhlpRohgSogdSyrc,64b-655ArabSyrc,
  660-669ArabThaaYezi,670ArabSyrc,6d4ArabRohg,
  951BengDevaGranGujrGuruKndaLatnMlymNandNewaOryaShrdTamlTeluTirh,
  952BengDevaGranGujrGuruKndaLatnMlymNewaOryaTamlTeluTirh,
  964BengDevaDogrGongGonmGranGujrGuruKndaMahjMlymNandOnaoOryaSindSinhSyloTakrTamlTeluTirh,
  965BengDevaDogrGongGonmGranGujrGukhGuruKndaLimbMahjMlymNandOnaoOryaSindSinhSyloTakrTamlTeluTirh,
  966-96fDevaDogrKthiMahj,9e6-9efBengCakmSylo,a66-a6fGuruMult,ae6-aefGujrKhoj,be6-bf3GranTaml,
  ce6-cefKndaNandTutg,1040-1049CakmMymrTale,10fbGeorGlagLatn,16eb-16edRunr,
  1735-1736BuhdHanoTagbTglg,1802-1803MongPhag,1805MongPhag,1cd0BengDevaGranKnda,1cd1Deva,
  1cd2BengDevaGranKnda,1cd3DevaGranKnda,1cd4Deva,1cd5BengDevaNewaTeluTirh,1cd6BengDevaTelu,
  1cd7DevaNewaShrd,1cd8BengDevaNewaTelu,1cd9DevaShrd,1cdaDevaKndaMlymOryaTamlTelu,1cdbDeva,
  1cdc-1cddDevaShrd,1cde-1cdfDeva,1ce0DevaShrd,1ce1BengDeva,1ce2DevaNewaTirh,1ce3-1ce8Deva,
  1ce9DevaNandNewa,1ceaBengDevaShrd,1cebDevaNewa,1cecDeva,1cedBengDevaNewaShrd,1cee-1cf1Deva,
  1cf2BengDevaGranKndaMlymNandOryaSinhTeluTirhTutg,1cf3DevaGran,1cf4DevaGranKndaTutg,
  1cf5-1cf6BengDeva,1cf7Beng,1cf8-1cf9DevaGran,1cfaNand,1dc0-1dc1Grek,1df8CyrlLatnSyrc,1dfaSyrc,
  202fLatnMongPhag,204fAdlmArab,205aCariGeorGlagHungLyciOrkh,205dCariGrekHungMero,20f0DevaGranLatn,
  2e17CoptLatn,2e30AvstOrkh,2e31AvstCariGeorHungKthiLydiSamr,2e3cDupl,2e41AdlmArabHung,2e43CyrlGlag,
  2ff0-2fffHaniTang,3001BopoHangHaniHiraKanaMongYiii,3002BopoHangHaniHiraKanaMongPhagYiii,
  3003BopoHangHaniHiraKana,3006Hani,3008-3009BopoHangHaniHiraKanaMongTibtYiii,
  300a-300bBopoHangHaniHiraKanaLisuMongTibtYiii,300c-3011BopoHangHaniHiraKanaYiii,
  3013BopoHangHaniHiraKana,3014-301bBopoHangHaniHiraKanaYiii,301c-301fBopoHangHaniHiraKana,
  302a-302dBopoHani,3030BopoHangHaniHiraKana,3031-3035HiraKana,3037BopoHangHaniHiraKana,
  303c-303dHaniHiraKana,303e-303fHani,3099-309cHiraKana,30a0HiraKana,30fbBopoHangHaniHiraKanaYiii,
  30fcHiraKana,3190-319fHani,31c0-31e5Hani,31efHaniTang,3220-3247Hani,3280-32b0Hani,32c0-32cbHani,
  32ffHani,3358-3370Hani,337b-337fHani,33e0-33feHani,a66fCyrlGlag,a700-a707HaniLatn,
  a830-a832DevaDogrGujrGuruKhojKndaKthiMahjMlymModiNandShrdSindTakrTirhTutg,
  a833-a835DevaDogrGujrGuruKhojKndaKthiMahjModiNandShrdSindTakrTirhTutg,
  a836-a837DevaDogrGujrGuruKhojKthiMahjModiSindTakrTirh,
  a838DevaDogrGujrGuruKhojKthiMahjModiShrdSindTakrTirh,
  a839DevaDogrGujrGuruKhojKthiMahjModiSindTakrTirh,a8f1BengDevaTutg,a8f3DevaTaml,a92eKaliLatnMymr,
  a9cfBugiJava,fd3e-fd3fArabNkoo,fdf2ArabThaa,fdfdArabThaa,fe45-fe46BopoHangHaniHiraKana,
  ff61-ff65BopoHangHaniHiraKanaYiii,ff70HiraKana,ff9e-ff9fHiraKana,10100-10101CpmnCprtLinb,
  10102CprtLinb,10107-10133CprtLinaLinb,10137-1013fCprtLinb,102e0-102fbArabCopt,10af2ManiOugr,
  11301GranTaml,11303GranTaml,1133b-1133cGranTaml,11fd0-11fd1GranTaml,11fd3GranTaml,1bca0-1bca3Dupl,
  1d360-1d371Hani,1f250-1f251Hani"

/-- The names that follow one another, four letters each. -/
def fourLetterNames : Nat → List Char → List String
  | 0, _ => []
  | _, [] => []
  | fuel + 1, cs => String.ofList (cs.take 4) :: fourLetterNames fuel (cs.drop 4)

/-- The ranges with their scripts. -/
def scriptExtensions : List ((Nat × Nat) × List String) :=
  (CodeSet.entries scriptExtensionTable).map fun entry =>
    let names := entry.dropWhile fun c => !c.isUpper
    (CodeSet.rangeOfEntry (entry.takeWhile fun c => !c.isUpper), fourLetterNames names.length names)

/-- The code points that are used in a script, by its four-letter name. -/
def scriptExtension (name : String) : CodeSet :=
  let shared := scriptExtensions.filter fun entry => entry.2.contains name
  if name == "Zyyy" || name == "Zinh" then
    (script name).diff (.ofRanges (scriptExtensions.map Prod.fst))
  else (script name).union (.ofRanges (shared.map Prod.fst))

end InfraPolicy.Unicode
